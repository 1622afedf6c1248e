import KeySheet.Proofs.Desk.SheetCalls

/-! What the viewer shows of the sheets that it asked for. Answers come in the order of the calls, so
when every sheet has come, the last is the one that was asked for last. But the viewer has one mark
of waiting and one reason for all its calls: the first answer takes the mark away, and a reason that
comes while a later sheet is made stays beside that sheet. -/
namespace KeySheet

open Backend (Answer Call Failure Service inquiries inquiries_append)

namespace Backend

/-- The answers that are sheets, or say why there is none, the oldest first. -/
def reports (answers : List Answer) : List (String × Except Failure Sheet.Score) :=
  answers.filterMap Answer.report?

def reportsOn (midi : String) (told : List (String × Except Failure Sheet.Score)) :
    List (Except Failure Sheet.Score) :=
  (told.filter (fun report => report.1 = midi)).map Prod.snd

def failure? : Except Failure Sheet.Score → Option Failure
  | .ok _ => none
  | .error e => some e

theorem reports_append (answers more : List Answer) :
    reports (answers ++ more) = reports answers ++ reports more :=
  List.filterMap_append

theorem mem_reports {answers : List Answer} {midi : String} {answer : Except Failure Sheet.Score} :
    (midi, answer) ∈ reports answers ↔ .sheet midi answer ∈ answers := by
  rw [reports, List.mem_filterMap]
  constructor
  · rintro ⟨told, member, same⟩
    cases told with
    | sheet => cases same; exact member
    | _ => cases same
  · exact fun member => ⟨_, member, rfl⟩

theorem mem_inquiries {calls : List Call} {midi : String} {settings : Settings} :
    (midi, settings) ∈ inquiries calls ↔ .convertToSheets midi settings ∈ calls := by
  rw [inquiries, List.mem_filterMap]
  constructor
  · rintro ⟨call, member, same⟩
    cases call with
    | convertToSheets => cases same; exact member
    | _ => cases same
  · exact fun member => ⟨_, member, rfl⟩

theorem inquiries_settled {calls : List Call} :
    inquiries calls = [] ↔ ∀ midi settings, .convertToSheets midi settings ∉ calls := by
  rw [List.eq_nil_iff_forall_not_mem, Prod.forall]
  simp only [mem_inquiries]

theorem reportsOn_nil (midi : String) : reportsOn midi [] = [] := rfl

theorem reportsOn_append (midi : String) (told more : List (String × Except Failure Sheet.Score)) :
    reportsOn midi (told ++ more) = reportsOn midi told ++ reportsOn midi more := by
  rw [reportsOn, List.filter_append, List.map_append]
  rfl

theorem mem_reportsOn {midi : String} {told : List (String × Except Failure Sheet.Score)}
    {answer : Except Failure Sheet.Score} : answer ∈ reportsOn midi told ↔ (midi, answer) ∈ told := by
  simp [reportsOn]

theorem reportsOn_eq_nil {midi : String} {told : List (String × Except Failure Sheet.Score)} :
    reportsOn midi told = [] ↔ midi ∉ told.map Prod.fst := by
  rw [reportsOn, List.map_eq_nil_iff, List.filter_eq_nil_iff, List.mem_map]
  simp only [decide_eq_true_eq, not_exists, not_and]

theorem reportsOn_concat (midi : String) (told : List (String × Except Failure Sheet.Score))
    (answer : Except Failure Sheet.Score) :
    reportsOn midi (told ++ [(midi, answer)]) = reportsOn midi told ++ [answer] := by
  simp [reportsOn]

theorem mem_failures {heard : List (Except Failure Sheet.Score)} {e : Failure} :
    e ∈ heard.filterMap failure? ↔ .error e ∈ heard := by
  rw [List.mem_filterMap]
  constructor
  · rintro ⟨answer, member, same⟩
    cases answer with
    | ok => cases same
    | error => cases same; exact member
  · exact fun member => ⟨_, member, rfl⟩

end Backend

open Backend (failure? inquiries_settled mem_failures mem_inquiries mem_reports mem_reportsOn reports
  reports_append reportsOn reportsOn_append reportsOn_concat reportsOn_eq_nil reportsOn_nil)

namespace Desk

/-- A sheet is shown, in its layout and with the shifts of its headers. -/
structure Viewer.HasSheet (v : Viewer) (score : Sheet.Score) : Prop where
  sheet : v.sheet = some score
  layout : v.layout = Sheet.layout score.text.toList
  transposes : v.transposes = Sheet.transposes score.text.toList

/-- What a viewer shows that has heard these answers since it last asked for the sheet. -/
structure Shows (midi : String) (heard : List (Except Failure Sheet.Score)) (v : Viewer) : Prop where
  midi : v.midi = some midi
  loading : v.loading = heard.isEmpty
  error : v.error = (heard.filterMap failure?).getLast?.map Failure.userMessage
  sheet : ∀ score, heard.getLast? = some (.ok score) → v.HasSheet score

variable {midi : String} {heard : List (Except Failure Sheet.Score)} {v w : Viewer}
  {settings settings' : Settings} {report : Option (String × Except Failure Sheet.Score)}

theorem shows_nothing (named : v.midi = some midi) (loading : v.loading = true)
    (error : v.error = none) : Shows midi [] v :=
  ⟨named, loading, error, nofun⟩

theorem Shows.same (h : Shows midi heard v) (same : SameSheet v w) : Shows midi heard w := by
  refine ⟨same.midi.trans h.midi, same.loading.trans h.loading, same.error.trans h.error, ?_⟩
  intro score last
  obtain ⟨sheet, layout, transposes⟩ := h.sheet score last
  exact ⟨same.sheet.trans sheet, same.layout.trans layout, same.transposes.trans transposes⟩

theorem Shows.receive (h : Shows midi heard v) (answer : Except Failure Sheet.Score) :
    Shows midi (heard ++ [answer]) (v.receive midi answer) := by
  have unempty : (heard ++ [answer]).isEmpty = false := by simp
  cases answer with
  | ok score =>
      rw [Viewer.receive, if_pos h.midi]
      refine ⟨h.midi, unempty.symm, ?_, ?_⟩
      · rw [List.filterMap_append]
        exact h.error.trans (by simp [failure?])
      · intro last same
        rw [List.getLast?_concat] at same
        cases same
        exact ⟨rfl, rfl, rfl⟩
  | error e =>
      rw [Viewer.receive, if_pos h.midi]
      refine ⟨h.midi, unempty.symm, ?_, ?_⟩
      · rw [List.filterMap_append]
        simp [failure?]
      · intro last same
        rw [List.getLast?_concat] at same
        cases same

/-- Nothing but answers for its file changes what a viewer shows that asks for no sheet. -/
theorem Shows.viewed (h : Shows midi heard v) (viewed : Viewed settings v report settings' w []) :
    Shows midi (heard ++ reportsOn midi report.toList) w := by
  cases viewed with
  | looked same =>
      rw [Option.toList_none, reportsOn_nil, List.append_nil]
      exact h.same same
  | resettled =>
      rw [Option.toList_none, reportsOn_nil, List.append_nil]
      exact h
  | @heard midi' answer =>
      rw [Option.toList_some]
      rcases eq_or_ne midi' midi with rfl | other
      · have own : reportsOn midi' [(midi', answer)] = [answer] := reportsOn_concat midi' [] answer
        rw [own]
        exact h.receive answer
      · have none : reportsOn midi [(midi', answer)] = [] :=
          reportsOn_eq_nil.mpr (by simpa using other.symm)
        have ignored : v.receive midi' answer = v := by
          unfold Viewer.receive
          exact if_neg fun same => other (Option.some.inj (same.symm.trans h.midi))
        rw [none, ignored, List.append_nil]
        exact h

theorem Shows.error_none (h : Shows midi heard v) :
    v.error = none ↔ ∀ e, .error e ∉ heard := by
  rw [h.error, Option.map_eq_none_iff, List.getLast?_eq_none_iff, List.eq_nil_iff_forall_not_mem]
  simp only [mem_failures]

theorem Shows.error_last (h : Shows midi heard v) {e : Failure}
    (last : heard.getLast? = some (.error e)) : v.error = some e.userMessage := by
  obtain ⟨before, rfl⟩ := List.getLast?_eq_some_iff.mp last
  rw [h.error, List.filterMap_append]
  simp [failure?]

end Desk

namespace Ledger

open Desk (Answers Move Shows Viewed)

variable {l start before asked : Ledger} {midi : String} {inquiry : String × Settings}
  {moves : List Move}

theorem reports_answersOf (d : Desk) (m : Move) :
    reports (answersOf d m) = (d.reporting m).toList := by
  cases m with
  | take t =>
      cases waiting : d.mail.answers with
      | nil => simp [answersOf, Desk.reporting, waiting, reports]
      | cons answer rest =>
          rw [answersOf, Desk.reporting, waiting]
          cases told : answer.report? <;> simp [reports, told]
  | _ => rfl

/-- While no sheet is asked for, the viewer shows what it hears. -/
theorem Attended.shows_play {heard : List (Except Failure Sheet.Score)} (h : l.Attended)
    (shows : Shows midi heard l.desk.viewer) (moves : List Move)
    (quiet : inquiries ((l.play moves).submitted.drop l.submitted.length) = []) :
    Shows midi (heard ++ reportsOn midi (reports ((l.play moves).drained.drop l.drained.length)))
      (l.play moves).desk.viewer := by
  induction moves generalizing l heard with
  | nil =>
      have none : (l.play []).drained.drop l.drained.length = [] := List.drop_length
      rw [none, reports, List.filterMap_nil, reportsOn_nil, List.append_nil]
      exact shows
  | cons m rest ih =>
      have viewed := h.advance_views m
      rw [submitted_since, inquiries_append, List.append_eq_nil_iff] at quiet
      rw [quiet.1] at viewed
      rw [drained_since, reports_append, reportsOn_append, reports_answersOf, ← List.append_assoc]
      exact ih (h.advance m) (shows.viewed viewed) quiet.2

/-- The run before the last call for a sheet, and right after the move that makes it. -/
structure LastAsked (start : Ledger) (moves : List Move) (before asked : Ledger)
    (inquiry : String × Settings) : Prop where
  made : ∃ first m later, moves = first ++ m :: later ∧ before = start.play first ∧
    asked = before.advance m ∧ inquiries (callsOf before.desk m) = [inquiry]
  last : inquiries ((start.play moves).submitted.drop asked.submitted.length) = []

theorem exists_last_asking (l : Ledger) (moves : List Move)
    (asks : inquiries ((l.play moves).submitted.drop l.submitted.length) ≠ []) :
    ∃ first m later, moves = first ++ m :: later ∧
      inquiries (callsOf (l.play first).desk m) ≠ [] ∧
      inquiries ((l.play moves).submitted.drop ((l.play first).advance m).submitted.length) = [] := by
  induction moves generalizing l with
  | nil =>
      have none : (l.play []).submitted.drop l.submitted.length = [] := List.drop_length
      exact absurd (by rw [none]; rfl) asks
  | cons m rest ih =>
      by_cases later : inquiries
          (((l.advance m).play rest).submitted.drop (l.advance m).submitted.length) = []
      · rw [submitted_since, inquiries_append, later, List.append_nil] at asks
        exact ⟨[], m, rest, rfl, asks, later⟩
      · obtain ⟨first, m', more, rfl, now, last⟩ := ih _ later
        exact ⟨m :: first, m', more, rfl, now, last⟩

def exchange? : Call × Answer → Option ((String × Settings) × Except Failure Sheet.Score)
  | (.convertToSheets midi settings, .sheet _ answer) => some ((midi, settings), answer)
  | _ => none

/-- The sheets that were asked for and have been answered, with the answers. -/
def exchanges (l : Ledger) : List ((String × Settings) × Except Failure Sheet.Score) :=
  (l.submitted.zip l.drained).filterMap exchange?

theorem exchanges_of {calls : List Call} {answers : List Answer}
    (h : List.Forall₂ Answers calls answers) :
    ((calls.zip answers).filterMap exchange?).map Prod.fst = inquiries calls ∧
      reports answers =
        ((calls.zip answers).filterMap exchange?).map fun pair => (pair.1.1, pair.2) := by
  induction h with
  | nil => exact ⟨rfl, rfl⟩
  | @cons call answer calls answers first _ ih =>
      obtain ⟨service, rfl⟩ := first
      cases call with
      | convertToSheets midi settings =>
          exact ⟨congrArg (List.cons (midi, settings)) ih.1,
            congrArg (List.cons (midi, service.convertToSheets midi settings)) ih.2⟩
      | _ => exact ih

/-- Every sheet that was asked for has its answer or is outstanding, and every sheet that came is an
answer. -/
theorem Balanced.exchanges_account (h : l.Balanced) :
    l.exchanges.map Prod.fst ++ inquiries l.outstanding = inquiries l.submitted ∧
      reports l.drained = l.exchanges.map fun pair => (pair.1.1, pair.2) := by
  obtain ⟨calls, answers⟩ := exchanges_of h.split.1
  rw [exchanges, h.pairs]
  refine ⟨?_, answers⟩
  rw [calls, ← inquiries_append, outstanding, List.take_append_drop]

theorem Balanced.reports_account (h : l.Balanced) :
    (reports l.drained).map Prod.fst ++ (inquiries l.outstanding).map Prod.fst =
      (inquiries l.submitted).map Prod.fst := by
  obtain ⟨calls, answers⟩ := h.exchanges_account
  rw [← calls, answers, List.map_append, List.map_map, List.map_map]
  rfl

namespace LastAsked

theorem submitted (h : LastAsked start moves before asked inquiry) :
    inquiries (start.play moves).submitted = inquiries asked.submitted := by
  obtain ⟨first, m, later, rfl, rfl, rfl, -⟩ := h.made
  have last := h.last
  have run : start.play (first ++ m :: later) = ((start.play first).advance m).play later :=
    play_append start first (m :: later)
  obtain ⟨more, submitted⟩ := submitted_prefix ((start.play first).advance m) later
  rw [run, ← submitted, List.drop_left] at last
  rw [run, ← submitted, inquiries_append, last, List.append_nil]

theorem getLast? (h : LastAsked start moves before asked inquiry) :
    (inquiries (start.play moves).submitted).getLast? = some inquiry := by
  rw [h.submitted]
  obtain ⟨first, m, later, rfl, rfl, rfl, made⟩ := h.made
  rw [Ledger.advance, inquiries_append, made, List.getLast?_concat]

/-- The sheets that came since the last call and those that are still to come are the ones that were
to come before the call, and its own. -/
theorem account (h : LastAsked start moves before asked inquiry) (balanced : start.Balanced) :
    ∃ rest : List (String × Settings), (∀ i ∈ rest, i ∈ inquiries before.outstanding) ∧
      (reports ((start.play moves).drained.drop asked.drained.length)).map Prod.fst ++
        (inquiries (start.play moves).outstanding).map Prod.fst =
          rest.map Prod.fst ++ [inquiry.1] := by
  have same := h.submitted
  obtain ⟨first, m, later, rfl, rfl, rfl, made⟩ := h.made
  have before : (start.play first).Balanced := balanced.play first
  obtain ⟨gone, rest, parts, -, left⟩ := before.outstanding_next m
  refine ⟨inquiries rest, ?_, ?_⟩
  · intro i member
    rw [parts, inquiries_append]
    exact List.mem_append_right _ member
  · have asked := (before.advance (advance_cases _ m)).reports_account
    have now := (balanced.play (first ++ m :: later)).reports_account
    obtain ⟨told, drained⟩ := drained_prefix ((start.play first).advance m) later
    have drained : (start.play (first ++ m :: later)).drained =
        ((start.play first).advance m).drained ++ told := by
      rw [play_append, drained]
      rfl
    rw [same, ← asked, drained, reports_append, List.map_append, List.append_assoc] at now
    rw [drained, List.drop_left, List.append_cancel_left now, left, inquiries_append, made,
      List.map_append]
    rfl

/-- When every sheet has come, the last of them answers the last call. -/
theorem answered (h : LastAsked start moves before asked inquiry) (balanced : start.Balanced)
    (settled : inquiries (start.play moves).outstanding = []) :
    ∃ told answer,
      reports ((start.play moves).drained.drop asked.drained.length) =
        told ++ [(inquiry.1, answer)] ∧
      (∀ name ∈ told.map Prod.fst, ∃ settings, (name, settings) ∈ inquiries before.outstanding) ∧
      (start.play moves).exchanges.getLast? = some (inquiry, answer) := by
  obtain ⟨rest, known, account⟩ := h.account balanced
  rw [settled, List.map_nil, List.append_nil] at account
  obtain ⟨told, last, parts, names, single⟩ := List.map_eq_append_iff.mp account
  obtain ⟨⟨name, answer⟩, rfl, rfl⟩ := List.map_eq_singleton_iff.mp single
  refine ⟨told, answer, parts, ?_, ?_⟩
  · intro name member
    rw [names] at member
    obtain ⟨i, waited, rfl⟩ := List.mem_map.mp member
    exact ⟨i.2, known i waited⟩
  · obtain ⟨calls, answers⟩ := (balanced.play moves).exchanges_account
    rw [settled, List.append_nil] at calls
    have final := h.getLast?
    rw [← calls, List.getLast?_map] at final
    obtain ⟨⟨call, given⟩, last, rfl⟩ := Option.map_eq_some_iff.mp final
    -- The last report of all is the last one since the call.
    have reported : (reports (start.play moves).drained).getLast? = some (call.1, answer) := by
      rw [← List.take_append_drop asked.drained.length (start.play moves).drained, reports_append,
        parts, ← List.append_assoc, List.getLast?_concat]
    rw [answers, List.getLast?_map, last] at reported
    cases reported
    exact last

/-- While some sheet is to come, the one of the last call is, and what came since that call was asked
for before it. -/
theorem unanswered (h : LastAsked start moves before asked inquiry) (balanced : start.Balanced)
    (waits : inquiries (start.play moves).outstanding ≠ []) :
    inquiry.1 ∈ (inquiries (start.play moves).outstanding).map Prod.fst ∧
      ∀ name ∈ (reports ((start.play moves).drained.drop asked.drained.length)).map Prod.fst,
        ∃ settings, (name, settings) ∈ inquiries before.outstanding := by
  obtain ⟨rest, known, account⟩ := h.account balanced
  obtain ⟨more, last, parts⟩ := (List.eq_nil_or_concat' _).resolve_left waits
  rw [parts, List.map_append, ← List.append_assoc] at account
  obtain ⟨names, single⟩ := List.append_inj' account rfl
  refine ⟨?_, ?_⟩
  · rw [parts, List.map_append, single]
    exact List.mem_append_right _ List.mem_cons_self
  · intro name member
    have earlier := List.mem_append_left (more.map Prod.fst) member
    rw [names] at earlier
    obtain ⟨i, waited, rfl⟩ := List.mem_map.mp earlier
    exact ⟨i.2, known i waited⟩

end LastAsked

/-- An open viewer has asked for the sheet of its file as things are set now, and shows what was
reported of the file since then. -/
theorem Attended.shows (h : start.Attended) (unasked : inquiries start.submitted = [])
    (moves : List Move) (shown : (start.play moves).desk.viewer.isOpen = true) :
    ∃ before asked midi,
      LastAsked start moves before asked (midi, (start.play moves).desk.settings.forMode
        (start.play moves).desk.viewer.mode) ∧
      Shows midi (reportsOn midi (reports ((start.play moves).drained.drop asked.drained.length)))
        (start.play moves).desk.viewer := by
  obtain ⟨midi, -, current⟩ := (h.play moves).current shown
  have asks : inquiries ((start.play moves).submitted.drop start.submitted.length) ≠ [] := by
    intro none
    obtain ⟨more, submitted⟩ := submitted_prefix start moves
    rw [← submitted, List.drop_left] at none
    rw [← submitted, inquiries_append, unasked, none] at current
    cases current
  obtain ⟨first, m, later, parts, made, last⟩ := exists_last_asking start moves asks
  have attended := h.play first
  have viewed := attended.advance_views m
  have asked : ∃ inquiry, inquiries (callsOf (start.play first).desk m) = [inquiry] ∧
      Shows inquiry.1 [] ((start.play first).advance m).desk.viewer := by
    generalize inquiries (callsOf (start.play first).desk m) = asked at made viewed ⊢
    generalize (start.play first).desk.reporting m = report at viewed
    generalize ((start.play first).advance m).desk.settings = settings at viewed
    generalize ((start.play first).advance m).desk.viewer = viewer at viewed ⊢
    cases viewed with
    | asked named loading error => exact ⟨_, rfl, Desk.shows_nothing named loading error⟩
    | _ => exact absurd rfl made
  obtain ⟨inquiry, made, shows⟩ := asked
  have run : LastAsked start moves (start.play first) ((start.play first).advance m) inquiry :=
    ⟨⟨first, m, later, parts, rfl, rfl, made⟩, last⟩
  obtain rfl := Option.some.inj (run.getLast?.symm.trans current)
  refine ⟨_, _, midi, run, ?_⟩
  rw [parts, play_append] at last ⊢
  exact (attended.advance m).shows_play shows later last

/-- A converter with one song, that answers so when its sheet is asked for. -/
def offering (answer : Except Failure Sheet.Score) : Service Id :=
  { Service.keeping {} with
    history := fun _ =>
      (.ok [{ timestamp := .zero, result := { midiName := some "a.mid" } }] :
        Except Failure (List Media.Entry))
    convertToSheets := fun _ _ => answer }

/-- The song is opened from the history, as soon as it is there. -/
def openMoves : List Move :=
  answerMoves (offering (.error (.rejected ""))) 3 ++ presses [.tab, .enter]

def score : Sheet.Score := ⟨"a b", none⟩

def opened (moves : List Move) : Ledger := (fresh "s" .cuda ['/']).play (openMoves ++ moves)

/-- Once every sheet has come, an open viewer shows what came of the last call: its sheet, or the
reason why there is none. A reason that was given since the call stays beside the sheet; there is
none if no other sheet of the file was to come when the call was made. -/
theorem open_shows_last_outcome (server : String) (device : Media.Device) (dir : List Char)
    (moves : List Move)
    (shown : ((fresh server device dir).play moves).desk.viewer.isOpen = true)
    (settled : ∀ midi settings, Call.convertToSheets midi settings ∉
      ((fresh server device dir).play moves).outstanding) :
    let l := (fresh server device dir).play moves
    ∃ before asked midi settings answer,
      LastAsked (fresh server device dir) moves before asked (midi, settings) ∧
      l.exchanges.getLast? = some ((midi, settings), answer) ∧
      l.desk.viewer.midi = some midi ∧ l.desk.viewer.loading = false ∧
      (∀ e, answer = .error e → l.desk.viewer.error = some e.userMessage) ∧
      ∀ score, answer = .ok score → l.desk.viewer.HasSheet score ∧
        (l.desk.viewer.error = none ↔
          ∀ e, .sheet midi (.error e) ∉ l.drained.drop asked.drained.length) ∧
        ((∀ settings, .convertToSheets midi settings ∉ before.outstanding) →
          l.desk.viewer.error = none) := by
  intro l
  have attended := attended_fresh server device dir
  obtain ⟨before, asked, midi, run, shows⟩ := attended.shows rfl moves shown
  obtain ⟨told, answer, since, known, last⟩ :=
    run.answered attended.balanced (inquiries_settled.mpr settled)
  have heard := shows
  rw [since, reportsOn_concat] at heard
  refine ⟨before, asked, midi, _, answer, run, last, heard.midi, ?_, ?_, ?_⟩
  · exact heard.loading.trans (by simp)
  · rintro e rfl
    exact heard.error_last List.getLast?_concat
  · rintro score rfl
    refine ⟨heard.sheet score List.getLast?_concat, ?_, ?_⟩
    · rw [shows.error_none]
      simp only [mem_reportsOn, mem_reports]
      rfl
    · intro alone
      have none : reportsOn midi told = [] := by
        apply reportsOn_eq_nil.mpr
        intro member
        obtain ⟨settings, waited⟩ := known midi member
        exact alone settings (mem_inquiries.mp waited)
      rw [none] at heard
      exact heard.error_none.mpr (by simp)

/-- The sheet comes that the song was opened for. -/
def comeMoves : List Move := answerMoves (offering (.ok score)) 1

theorem open_shows_lone_sheet :
    (opened comeMoves).desk.viewer.isOpen = true ∧
    (∀ midi settings, Call.convertToSheets midi settings ∉ (opened comeMoves).outstanding) ∧
    (opened comeMoves).desk.viewer.HasSheet score := by
  have settled : ∀ midi settings, Call.convertToSheets midi settings ∉
      (opened comeMoves).outstanding := by
    have none : (opened comeMoves).outstanding = [] := rfl
    simp [none]
  obtain ⟨before, asked, midi, settings, answer, run, last, -, -, -, sheet⟩ :=
    open_shows_last_outcome "s" .cuda ['/'] (openMoves ++ comeMoves) rfl settled
  obtain ⟨-, rfl⟩ := Prod.mk.inj (Option.some.inj last)
  exact ⟨rfl, settled, (sheet score rfl).1⟩

/-- The sheet is asked for in the other mode before the first answer, which is a reason why there is
none; then the sheet comes. -/
def turnedMoves : List Move :=
  presses [.char 'm'] ++ [.serve (offering (.error (.rejected "busy")))] ++
    answerMoves (offering (.ok score)) 1 ++ [.take ⟨0, .zero⟩]

/-- The last call has its sheet, and all the same there is the reason of the call before it. -/
theorem reason_outlives_its_call :
    (opened turnedMoves).desk.viewer.isOpen = true ∧
    (opened turnedMoves).outstanding = [] ∧
    (opened turnedMoves).exchanges =
      [(("a.mid", Settings.forMode {} .auto), .error (.rejected "busy")),
        (("a.mid", Settings.forMode {} .multi), .ok score)] ∧
    (opened turnedMoves).desk.viewer.sheet = some score ∧
    (opened turnedMoves).desk.viewer.error = some "busy" :=
  ⟨rfl, rfl, rfl, rfl, rfl⟩

/-- An open viewer waits until something is reported of its file since it asked last. So while it
waits a sheet of the file is to come; the converse holds if none was when it asked. -/
theorem open_waits_for_report (server : String) (device : Media.Device) (dir : List Char)
    (moves : List Move)
    (shown : ((fresh server device dir).play moves).desk.viewer.isOpen = true) :
    let l := (fresh server device dir).play moves
    ∃ before asked midi settings,
      LastAsked (fresh server device dir) moves before asked (midi, settings) ∧
      l.desk.viewer.midi = some midi ∧
      (l.desk.viewer.loading = true ↔
        ∀ answer, .sheet midi answer ∉ l.drained.drop asked.drained.length) ∧
      (l.desk.viewer.loading = true → ∃ settings, .convertToSheets midi settings ∈ l.outstanding) ∧
      ((∀ settings, .convertToSheets midi settings ∉ before.outstanding) →
        (∃ settings, .convertToSheets midi settings ∈ l.outstanding) →
          l.desk.viewer.loading = true) := by
  intro l
  have attended := attended_fresh server device dir
  obtain ⟨before, asked, midi, run, shows⟩ := attended.shows rfl moves shown
  have waits : l.desk.viewer.loading = true ↔
      midi ∉ (reports (l.drained.drop asked.drained.length)).map Prod.fst := by
    rw [shows.loading, List.isEmpty_iff, reportsOn_eq_nil]
  refine ⟨before, asked, midi, _, run, shows.midi, ?_, ?_, ?_⟩
  · rw [waits, List.mem_map]
    constructor
    · exact fun none answer member => none ⟨_, mem_reports.mpr member, rfl⟩
    · rintro none ⟨⟨_, answer⟩, member, rfl⟩
      exact none answer (mem_reports.mp member)
  · intro loading
    have unheard := waits.mp loading
    have unsettled : inquiries l.outstanding ≠ [] := by
      intro settled
      obtain ⟨told, answer, since, -⟩ := run.answered attended.balanced settled
      rw [since, List.map_append] at unheard
      exact unheard (List.mem_append_right _ List.mem_cons_self)
    obtain ⟨⟨_, settings⟩, member, rfl⟩ :=
      List.mem_map.mp (run.unanswered attended.balanced unsettled).1
    exact ⟨settings, mem_inquiries.mp member⟩
  · rintro alone ⟨settings, waiting⟩
    have unsettled := List.ne_nil_of_mem (mem_inquiries.mpr waiting)
    refine waits.mpr fun member => ?_
    obtain ⟨settings, waited⟩ := (run.unanswered attended.balanced unsettled).2 midi member
    exact alone settings (mem_inquiries.mp waited)

/-- After the first answer the viewer does not wait, and the sheet in its mode is still to come. -/
example :
    let l := opened (presses [.char 'm'] ++ answerMoves (offering (.ok score)) 1)
    l.desk.viewer.isOpen = true ∧ l.desk.viewer.loading = false ∧
      inquiries l.outstanding = [("a.mid", l.desk.settings.forMode l.desk.viewer.mode)] :=
  ⟨rfl, rfl, rfl⟩

end Ledger

end KeySheet
