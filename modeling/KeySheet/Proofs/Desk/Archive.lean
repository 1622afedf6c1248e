import KeySheet.Proofs.Desk.Listing

/-! The converter's own list beside the ledger of a desk. Its entries come and go without the desk,
too, but a timestamp is never used twice. Then a conversion that was deleted does not come back: a
list that was sent before the deletion is taken up before it, and a later one does not have it. -/
namespace KeySheet

open Backend (Answer Call Service)
open Decimal (Binary64)
open History (Distinct Lacks Listing)
open Media (Entry)

namespace Desk

/-- What the worker makes of the oldest call when it is its turn. -/
def servedOf (d : Desk) : Move → List Answer
  | .serve service => d.mail.calls.head?.toList.map (fun call => Id.run (reply service call))
  | _ => []

/-- The timestamps that the desk makes in a move. -/
def stampsOf (d : Desk) : Move → List Binary64
  | .take t => (d.mail.answers.head?.map (fun answer => d.stamped t answer.event?)).getD []
  | _ => []

/-- What a move does to the list and to the mail. -/
structure Shift (d : Desk) (m : Move) : Prop where
  listing : Listing d.history (Ledger.answersOf d m) (d.stampsOf m) (d.after m).history
  calls : ∀ call ∈ (d.after m).mail.calls, call ∈ d.mail.calls ∨ Picks d.history.entries call
  answers : Ledger.answersOf d m ++ (d.after m).mail.answers = d.mail.answers ++ d.servedOf m

variable {d : Desk} {m : Move}

theorem Unlisted.shift (h : Unlisted d (d.after m)) (untaken : Ledger.answersOf d m = [])
    (unstamped : d.stampsOf m = []) (unserved : d.servedOf m = []) : Shift d m := by
  obtain ⟨calls, mail, picks⟩ := h.asks
  refine ⟨?_, ?_, ?_⟩
  · rw [untaken, unstamped]
    exact .same h.entries (by simp)
  · intro call waits
    rw [mail] at waits
    exact (List.mem_append.mp waits).imp_right (picks call)
  · rw [untaken, unserved, mail, List.append_nil]
    rfl

theorem shift (d : Desk) (m : Move) : Shift d m := by
  cases m with
  | press t files p => exact Unlisted.shift (press_deed d t files p).unlisted rfl rfl rfl
  | tick t =>
      have ticked : Unlisted d (d.after (.tick t)) := by
        show Unlisted d (d.dispatch t .tick)
        exact unlisted_own d t rfl
      exact ticked.shift rfl rfl rfl
  | draw width height =>
      have drawn : Unlisted d (d.after (.draw width height)) := unlisted_same rfl rfl
      exact drawn.shift rfl rfl rfl
  | expire now =>
      obtain ⟨notice, same⟩ := Ledger.expireNotice_eq d now
      have expired : Unlisted d (d.after (.expire now)) := by
        rw [after, same]
        exact unlisted_same rfl rfl
      exact expired.shift rfl rfl rfl
  | serve service =>
      cases waiting : d.mail.calls with
      | nil =>
          have idle : Unlisted d (d.after (.serve service)) := by
            rw [serve_idle waiting]
            exact unlisted_same rfl rfl
          exact idle.shift rfl rfl (by simp [servedOf, waiting])
      | cons call rest =>
          -- The call gives way to its answer, and the list does not change before that is taken up.
          have served := serve_oldest waiting service
          refine ⟨?_, ?_, ?_⟩
          · rw [served]
            show Listing d.history [] [] d.history
            exact .same rfl (by simp)
          · intro call' waits
            rw [served] at waits
            exact .inl (List.mem_of_mem_drop waits)
          · rw [served, servedOf, waiting]
            rfl
  | take t =>
      cases waiting : d.mail.answers with
      | nil =>
          have idle : Unlisted d (d.after (.take t)) := by
            rw [takeUp_idle waiting]
            exact unlisted_same rfl rfl
          refine idle.shift ?_ ?_ rfl
          · simp [Ledger.answersOf, waiting]
          · simp [stampsOf, waiting]
      | cons answer rest =>
          have taken := takeUp_oldest waiting t
          have answers : Ledger.answersOf d (.take t) = [answer] := by
            simp [Ledger.answersOf, waiting]
          have stamps : d.stampsOf (.take t) = d.stamped t answer.event? := by
            simp [stampsOf, waiting]
          have lists := receive_lists { d with mail := d.mail.taken } t answer
          obtain ⟨calls, mail, picks⟩ := lists.asks
          refine ⟨?_, ?_, ?_⟩
          · rw [answers, stamps, taken]
            exact lists.listing
          · intro call waits
            rw [taken, mail] at waits
            exact (List.mem_append.mp waits).imp_right (picks call)
          · rw [answers, taken, mail, waiting]
            simp [Mailbox.submitAll, Mailbox.taken, waiting, servedOf]

theorem servedOf_cases (d : Desk) (m : Move) :
    d.servedOf m = [] ∨ ∃ answer, d.servedOf m = [answer] := by
  cases m with
  | serve service =>
      cases waiting : d.mail.calls with
      | nil => exact .inl (by simp [servedOf, waiting])
      | cons call rest => exact .inr ⟨Id.run (reply service call), by simp [servedOf, waiting]⟩
  | _ => exact .inl rfl

theorem servedOf_deleted {answer : Answer} (served : answer ∈ d.servedOf m) {timestamp : Binary64}
    (deleted : timestamp ∈ answer.deleted?) :
    ∃ call ∈ d.mail.calls, timestamp ∈ call.deletion? := by
  cases m with
  | serve service =>
      obtain ⟨call, first, rfl⟩ := List.mem_map.mp served
      have waits : call ∈ d.mail.calls := List.mem_of_mem_head? (Option.mem_toList.mp first)
      refine ⟨call, waits, ?_⟩
      cases call with
      | deleteHistory wanted =>
          have agreed : timestamp ∈
              (Answer.historyDeleted wanted (service.deleteHistory wanted)).deleted? := deleted
          cases done : (service.deleteHistory wanted : Except Backend.Failure Unit) with
          | ok => exact (done ▸ agreed :)
          | error e => cases (done ▸ agreed :)
      | _ => cases deleted
  | _ => cases served

end Desk

open Desk (Move)

/-- The ledger of a desk, with the list that the converter keeps meanwhile and the timestamps that
either of them has made, the oldest first. -/
structure Archive where
  ledger : Ledger
  stored : List Entry
  /-- Those of the converter, of all entries that it has ever stored. -/
  given : List Binary64
  /-- Those that the desk has made for conversions which it saw end. -/
  made : List Binary64

namespace Archive

inductive Step where
  | move (m : Move)
  /-- The converter has a new entry. -/
  | store (entry : Entry)
  /-- An entry goes without the desk. -/
  | drop (timestamp : Binary64)

def list (a : Archive) : List Entry := a.ledger.desk.history.entries

def stamps (a : Archive) : List Binary64 := a.given ++ a.made

/-- None is used twice. -/
def Apart (stamps : List Binary64) : Prop := stamps.Pairwise (fun x y => x.same y = false)

/-- The timestamps that some answers say are deleted. -/
def deletions (answers : List Answer) : List Binary64 := answers.filterMap Answer.deleted?

def without (stored : List Entry) (timestamps : List Binary64) : List Entry :=
  stored.filter (fun e => !timestamps.any (fun timestamp => e.timestamp.same timestamp))

def opened (server : String) (device : Media.Device) (dir : List Char) (stored : List Entry) :
    Archive :=
  ⟨.fresh server device dir, stored, stored.map (·.timestamp), []⟩

/-- An entry whose deletion the worker agrees to is not stored any more. -/
def next (a : Archive) : Step → Archive
  | .move m =>
      { ledger := a.ledger.advance m
        stored := without a.stored (deletions (a.ledger.desk.servedOf m))
        given := a.given
        made := a.made ++ a.ledger.desk.stampsOf m }
  | .store entry =>
      { a with stored := a.stored ++ [entry], given := a.given ++ [entry.timestamp] }
  | .drop timestamp => { a with stored := without a.stored [timestamp] }

def run (a : Archive) (steps : List Step) : Archive := steps.foldl next a

/-- A list that the worker sends has distinct entries, all of them stored. -/
def Honest (a : Archive) : Step → Prop
  | .move m => ∀ answer ∈ a.ledger.desk.servedOf m, ∀ entries ∈ answer.listed?,
      entries.Nodup ∧ ∀ e ∈ entries, e ∈ a.stored
  | .store _ | .drop _ => True

def HonestRun (a : Archive) : List Step → Prop
  | [] => True
  | step :: rest => a.Honest step ∧ (a.next step).HonestRun rest

/-- The answers taken up, and then those that wait. -/
def answers (a : Archive) : List Answer := a.ledger.drained ++ a.ledger.desk.mail.answers

structure Kept (a : Archive) : Prop where
  stored : (a.stored.map (·.timestamp)).Sublist a.given
  wanted : ∀ call ∈ a.ledger.desk.mail.calls, ∀ timestamp ∈ call.deletion?, timestamp ∈ a.stamps
  listed : ∀ answer ∈ a.answers, ∀ entries ∈ answer.listed?,
    Distinct entries ∧ ∀ e ∈ entries, e.timestamp ∈ a.given
  deleted : ∀ answer ∈ a.answers, ∀ timestamp ∈ answer.deleted?,
    timestamp ∈ a.stamps ∧ Lacks a.stored timestamp
  /-- No list that was sent after a deletion has what was deleted. -/
  order : a.answers.Pairwise (fun earlier later =>
    ∀ timestamp ∈ earlier.deleted?, ∀ entries ∈ later.listed?, Lacks entries timestamp)
  known : ∀ e ∈ a.list, e.timestamp ∈ a.stamps
  distinct : Distinct a.list
  gone : ∀ answer ∈ a.ledger.drained, ∀ timestamp ∈ answer.deleted?, Lacks a.list timestamp

variable {a : Archive} {step : Step}

theorem without_sublist (stored : List Entry) (timestamps : List Binary64) :
    (without stored timestamps).Sublist stored :=
  List.filter_sublist

theorem without_lacks (stored : List Entry) {timestamps : List Binary64} {timestamp : Binary64}
    (member : timestamp ∈ timestamps) : Lacks (without stored timestamps) timestamp := by
  intro e remains
  have none := (List.mem_filter.mp remains).2
  rw [Bool.not_eq_true', List.any_eq_false] at none
  exact Bool.eq_false_iff.mpr (none timestamp member)

theorem stamps_sublist (a : Archive) (step : Step) : a.stamps.Sublist (a.next step).stamps := by
  cases step with
  | move m => exact (List.Sublist.refl _).append (List.sublist_append_left _ _)
  | store entry => exact (List.sublist_append_left _ _).append (.refl _)
  | drop timestamp => exact .refl _

theorem stamps_run_sublist (a : Archive) (steps : List Step) :
    a.stamps.Sublist (a.run steps).stamps := by
  induction steps generalizing a with
  | nil => exact .refl _
  | cons step rest ih => exact (stamps_sublist a step).trans (ih (a.next step))

theorem Apart.fresh {front back : List Binary64} {stamp : Binary64}
    (apart : Apart (front ++ stamp :: back)) : ∀ x ∈ front ++ back, stamp.same x = false := by
  obtain ⟨-, behind, across⟩ := List.pairwise_append.mp apart
  intro x member
  rcases List.mem_append.mp member with before | after
  · rw [Binary64.same_symm]
    exact across x before stamp List.mem_cons_self
  · exact (List.pairwise_cons.mp behind).1 x after

theorem Kept.distinct_of_stored (h : a.Kept) (apart : Apart a.stamps) {entries : List Entry}
    (nodup : entries.Nodup) (stored : ∀ e ∈ entries, e ∈ a.stored) : Distinct entries := by
  have given : Apart a.given := apart.sublist (List.sublist_append_left _ _)
  have all : Distinct a.stored := List.pairwise_map.mp (given.sublist h.stored)
  -- What is sent need not be in the order of the store, so this goes by the places there.
  refine nodup.imp_of_mem fun {e e'} member member' other => ?_
  obtain ⟨i, hi, rfl⟩ := List.getElem_of_mem (stored e member)
  obtain ⟨j, hj, rfl⟩ := List.getElem_of_mem (stored e' member')
  exact all.apart hi hj fun same => other (by simp [same])

theorem kept_opened (server : String) (device : Media.Device) (dir : List Char)
    (stored : List Entry) : (opened server device dir stored).Kept := by
  have unanswered : (opened server device dir stored).answers = [] := rfl
  have empty : (opened server device dir stored).list = [] := rfl
  have calls : (opened server device dir stored).ledger.desk.mail.calls =
      [.health, .loadSettings, .history History.capacity] := rfl
  have untaken : (opened server device dir stored).ledger.drained = [] := rfl
  constructor
  case stored => exact .refl _
  case wanted => simp [calls, Call.deletion?]
  case gone => simp [untaken]
  case listed | deleted | order => simp [unanswered]
  case known | distinct => simp [empty, Distinct]

theorem Kept.store (h : a.Kept) (entry : Entry) (apart : Apart (a.next (.store entry)).stamps) :
    (a.next (.store entry)).Kept := by
  have more := (stamps_sublist a (.store entry)).subset
  have fresh : ∀ x ∈ a.stamps, entry.timestamp.same x = false := by
    refine Apart.fresh ?_
    rw [← List.singleton_append, ← List.append_assoc]
    exact apart
  refine ⟨?_, ?_, ?_, ?_, h.order, ?_, h.distinct, h.gone⟩
  · rw [next, List.map_append]
    exact h.stored.append (.refl _)
  · exact fun call waits timestamp wanted => more (h.wanted call waits timestamp wanted)
  · intro answer member entries listed
    obtain ⟨distinct, given⟩ := h.listed answer member entries listed
    exact ⟨distinct, fun e there => List.mem_append_left _ (given e there)⟩
  · intro answer member timestamp deleted
    obtain ⟨known, lacks⟩ := h.deleted answer member timestamp deleted
    refine ⟨more known, ?_⟩
    intro e there
    rcases List.mem_append.mp there with old | new
    · exact lacks e old
    · obtain rfl := List.mem_singleton.mp new
      exact fresh timestamp known
  · exact fun e there => more (h.known e there)

theorem Kept.drop (h : a.Kept) (timestamp : Binary64) : (a.next (.drop timestamp)).Kept := by
  have fewer := without_sublist a.stored [timestamp]
  refine { h with stored := (fewer.map _).trans h.stored, deleted := ?_ }
  intro answer member timestamp deleted
  obtain ⟨known, lacks⟩ := h.deleted answer member timestamp deleted
  exact ⟨known, lacks.sublist fewer⟩

theorem answers_move (a : Archive) (m : Move) :
    (a.next (.move m)).answers = a.answers ++ a.ledger.desk.servedOf m := by
  show (a.ledger.drained ++ Ledger.answersOf a.ledger.desk m) ++
      (a.ledger.desk.after m).mail.answers =
    (a.ledger.drained ++ a.ledger.desk.mail.answers) ++ a.ledger.desk.servedOf m
  rw [List.append_assoc, (a.ledger.desk.shift m).answers, List.append_assoc]

theorem taken_waits {m : Move} {answer : Answer}
    (taken : answer ∈ Ledger.answersOf a.ledger.desk m) : answer ∈ a.ledger.desk.mail.answers := by
  obtain ⟨n, some⟩ := Ledger.answersOf_take a.ledger.desk m
  rw [some] at taken
  exact List.mem_of_mem_take taken

theorem fresh_stamp {m : Move} (apart : Apart (a.next (.move m)).stamps) :
    ∀ stamp ∈ a.ledger.desk.stampsOf m, ∀ x ∈ a.stamps, stamp.same x = false := by
  have all : Apart (a.stamps ++ a.ledger.desk.stampsOf m) := by
    rw [stamps, List.append_assoc]
    exact apart
  intro stamp made x known
  rw [Binary64.same_symm]
  exact (List.pairwise_append.mp all).2.2 x known stamp made

theorem Kept.list_move (h : a.Kept) (m : Move) (apart : Apart (a.next (.move m)).stamps) :
    (∀ e ∈ (a.next (.move m)).list, e.timestamp ∈ (a.next (.move m)).stamps) ∧
    Distinct (a.next (.move m)).list ∧
    ∀ answer ∈ (a.next (.move m)).ledger.drained, ∀ timestamp ∈ answer.deleted?,
      Lacks (a.next (.move m)).list timestamp := by
  have listing := (a.ledger.desk.shift m).listing
  have more := (stamps_sublist a (.move m)).subset
  have fresh := fresh_stamp apart
  have listed {answer : Answer} (taken : answer ∈ Ledger.answersOf a.ledger.desk m) :=
    h.listed answer (List.mem_append_right _ (taken_waits taken))
  refine ⟨?_, ?_, ?_⟩
  · refine listing.forall (P := fun x => x ∈ (a.next (.move m)).stamps) ?_ ?_ ?_
    · exact fun e there => more (h.known e there)
    · intro answer taken entries brings e there
      exact more (List.mem_append_left _ ((listed taken entries brings).2 e there))
    · intro stamp made
      exact List.mem_append_right _ (List.mem_append_right _ made)
  · refine listing.distinct h.distinct ?_ ?_
    · exact fun answer taken entries brings => (listed taken entries brings).1
    · exact fun stamp made e there => fresh stamp made _ (h.known e there)
  · intro answer drained timestamp deleted
    rcases List.mem_append.mp drained with before | now
    · -- What waits now was sent after the deletion, and what is new has a new timestamp.
      refine listing.forall (P := fun x => x.same timestamp = false) ?_ ?_ ?_
      · exact h.gone answer before timestamp deleted
      · intro later taken entries brings
        have order := (List.pairwise_append.mp h.order).2.2
        exact order answer before later (taken_waits taken) timestamp deleted entries brings
      · intro stamp made
        have sent : answer ∈ a.answers := List.mem_append_left _ before
        exact fresh stamp made timestamp (h.deleted answer sent timestamp deleted).1
    · exact listing.deleted h.distinct answer now timestamp deleted

theorem Kept.move (h : a.Kept) (m : Move) (honest : a.Honest (.move m)) (now : Apart a.stamps)
    (apart : Apart (a.next (.move m)).stamps) : (a.next (.move m)).Kept := by
  have more := (stamps_sublist a (.move m)).subset
  have fewer := without_sublist a.stored (deletions (a.ledger.desk.servedOf m))
  obtain ⟨known, distinct, gone⟩ := h.list_move m apart
  -- One goal for each part that is about the mail: the calls, the lists, the deletions, and which
  -- of the last two come first.
  refine ⟨(fewer.map _).trans h.stored, ?_, ?_, ?_, ?_, known, distinct, gone⟩
  · intro call waits timestamp wanted
    rcases (a.ledger.desk.shift m).calls call waits with old | picks
    · exact more (h.wanted call old timestamp wanted)
    · obtain ⟨e, there, rfl⟩ := picks timestamp wanted
      exact more (h.known e there)
  · intro answer member entries brings
    rw [answers_move] at member
    rcases List.mem_append.mp member with old | served
    · exact h.listed answer old entries brings
    · obtain ⟨nodup, stored⟩ := honest answer served entries brings
      refine ⟨h.distinct_of_stored now nodup stored, ?_⟩
      intro e there
      exact h.stored.subset (List.mem_map_of_mem (stored e there))
  · intro answer member timestamp deleted
    rw [answers_move] at member
    rcases List.mem_append.mp member with old | served
    · obtain ⟨used, lacks⟩ := h.deleted answer old timestamp deleted
      exact ⟨more used, lacks.sublist fewer⟩
    · -- The worker deletes only what a call wants deleted, and that was in the list.
      obtain ⟨call, waits, wanted⟩ := Desk.servedOf_deleted served deleted
      refine ⟨more (h.wanted call waits timestamp wanted), without_lacks a.stored ?_⟩
      exact List.mem_filterMap.mpr ⟨answer, served, deleted⟩
  · rw [answers_move, List.pairwise_append]
    refine ⟨h.order, ?_, ?_⟩
    · rcases a.ledger.desk.servedOf_cases m with none | ⟨answer, one⟩
      · rw [none]
        exact .nil
      · rw [one]
        exact List.pairwise_singleton _ _
    · -- A list that is sent now has only what is stored, and nothing deleted is.
      intro earlier sent later served timestamp deleted entries brings e there
      have stored := (honest later served entries brings).2 e there
      exact (h.deleted earlier sent timestamp deleted).2 e stored

theorem Kept.next (h : a.Kept) (honest : a.Honest step) (apart : Apart (a.next step).stamps) :
    (a.next step).Kept := by
  cases step with
  | move m => exact h.move m honest (apart.sublist (stamps_sublist a _)) apart
  | store entry => exact h.store entry apart
  | drop timestamp => exact h.drop timestamp

theorem Kept.run (h : a.Kept) {steps : List Step} (honest : a.HonestRun steps)
    (apart : Apart (a.run steps).stamps) : (a.run steps).Kept := by
  induction steps generalizing a with
  | nil => exact h
  | cons step rest ih =>
      have soFar := apart.sublist (stamps_run_sublist (a.next step) rest)
      exact ih (h.next honest.1 soFar) honest.2 apart

theorem drained_run (a : Archive) (steps : List Step) :
    a.ledger.drained <+: (a.run steps).ledger.drained := by
  induction steps generalizing a with
  | nil => exact List.prefix_rfl
  | cons step rest ih =>
      refine List.IsPrefix.trans ?_ (ih (a.next step))
      cases step with
      | move m => exact List.prefix_append _ _
      | store | drop => exact List.prefix_rfl

/-- A deleted conversion never comes back, and no two in the list have the same timestamp: whatever
happens, once a deletion is taken up, no later list has its timestamp. -/
theorem deleted_never_returns (server : String) (device : Media.Device) (dir : List Char)
    (stored : List Entry) (earlier later : List Step)
    (honest : (opened server device dir stored).HonestRun (earlier ++ later))
    (apart : Apart ((opened server device dir stored).run (earlier ++ later)).stamps) :
    let before := (opened server device dir stored).run earlier
    let after := (opened server device dir stored).run (earlier ++ later)
    Distinct after.list ∧
    ∀ timestamp ∈ deletions before.ledger.drained, Lacks after.list timestamp := by
  intro before after
  have kept : after.Kept := (kept_opened server device dir stored).run honest apart
  have goesOn : after = before.run later := List.foldl_append
  refine ⟨kept.distinct, ?_⟩
  intro timestamp deleted
  obtain ⟨answer, drained, told⟩ := List.mem_filterMap.mp deleted
  have taken : answer ∈ after.ledger.drained := by
    rw [goesOn]
    exact (drained_run before later).subset drained
  exact kept.gone answer taken timestamp told

/-- A converter that lists some conversions, deletes what it is asked to, and converts at once. -/
def shelving (entries : List Entry) : Service Id :=
  { Service.keeping {} with
    createTask := fun _ => .ok "t"
    taskStatus := fun _ => .ok { status := .completed }
    history := fun _ => .ok entries }

def song (n : Nat) : Entry := { timestamp := .ofNat n, result := {} }

def pressStep (key : Desk.Key) : Step := .move (.press ⟨0, .zero⟩ .empty { key := key })

def serveStep (entries : List Entry) : Step := .move (.serve (shelving entries))

def takeStep : Step := .move (.take ⟨0, .ofNat 4⟩)

/-- The first of two songs is deleted, and the list is asked for again. -/
def deleteSteps : List Step :=
  List.replicate 3 (serveStep [song 1, song 2]) ++ List.replicate 3 takeStep ++
    [pressStep .tab, pressStep (.char 'd'), pressStep (.function 5), serveStep [], takeStep]

/-- The list comes, and a conversion runs to its end, which both sides add to theirs. -/
def convertSteps : List Step :=
  [serveStep [song 2], takeStep, pressStep .tab, pressStep (.char 'a'), pressStep .enter,
    serveStep [], takeStep, .move (.tick ⟨2000, .zero⟩), serveStep [], .store (song 3), takeStep,
    serveStep [song 3, song 2], takeStep]

instance (a : Archive) (step : Step) : Decidable (a.Honest step) :=
  match step with
  | .move m => inferInstanceAs (Decidable (∀ answer ∈ a.ledger.desk.servedOf m,
      ∀ entries ∈ answer.listed?, entries.Nodup ∧ ∀ e ∈ entries, e ∈ a.stored))
  | .store _ | .drop _ => .isTrue trivial

instance decidableHonestRun (a : Archive) : (steps : List Step) → Decidable (a.HonestRun steps)
  | [] => .isTrue trivial
  | step :: rest =>
      have := decidableHonestRun (a.next step) rest
      inferInstanceAs (Decidable (_ ∧ _))

theorem deleted_song_stays_away :
    let before := (opened "s" .cuda ['/'] [song 1, song 2]).run deleteSteps
    let after := (opened "s" .cuda ['/'] [song 1, song 2]).run (deleteSteps ++ convertSteps)
    deletions before.ledger.drained = [.ofNat 1] ∧ after.list = [song 3, song 2] ∧
      Distinct after.list ∧ Lacks after.list (.ofNat 1) := by
  intro before after
  have honest : (opened "s" .cuda ['/'] [song 1, song 2]).HonestRun
      (deleteSteps ++ convertSteps) := by
    decide +kernel
  have apart : Apart after.stamps := by
    have stamps : after.stamps = [.ofNat 1, .ofNat 2, .ofNat 3, .ofNat 4] := by decide +kernel
    rw [stamps, Apart]
    decide +kernel
  have deleted : deletions before.ledger.drained = [.ofNat 1] := by decide +kernel
  obtain ⟨distinct, lacks⟩ :=
    deleted_never_returns "s" .cuda ['/'] [song 1, song 2] deleteSteps convertSteps honest apart
  refine ⟨deleted, by decide +kernel, distinct, lacks (.ofNat 1) ?_⟩
  rw [deleted]
  exact List.mem_cons_self

end Archive

end KeySheet
