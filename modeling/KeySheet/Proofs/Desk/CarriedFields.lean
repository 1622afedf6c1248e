import KeySheet.Proofs.Desk.SavedSettings
import KeySheet.Proofs.Documents.SettingsCodec
import KeySheet.Backend.Exchange

/-! The fields of other clients. They come with the settings, go into every draft, and are sent
back with every save. Before the settings have come there are none to send, so a save that is made
then drops them. -/
namespace KeySheet

open Backend (Answer Call saves)
open Json (Fields)

namespace Desk

variable {settings settings' : Settings} {dialog dialog' : SettingsDialog} {saved : List Settings}

theorem Edited.arrived {arrived : Settings}
    (h : Edited settings dialog (some arrived) settings' dialog' saved) : settings' = arrived := by
  cases h
  rfl

/-- Only a save changes the settings once they have come. -/
theorem Edited.unsaved (h : Edited settings dialog none settings' dialog' saved)
    (unsaved : saved = []) : settings' = settings := by
  cases h with
  | untouched | drafted => rfl
  | saved => cases unsaved

end Desk

namespace Ledger

open Desk (Edited Move SettingsDialog)

variable {l : Ledger}

theorem play_loads (l : Ledger) (moves : List Move) :
    (l.play moves).submitted.countP Call.isLoad = l.submitted.countP Call.isLoad := by
  induction moves generalizing l with
  | nil => rfl
  | cons m rest ih =>
      obtain ⟨calls, made, noLoad, -⟩ := l.advance_edits m
      have none : calls.countP Call.isLoad = 0 :=
        List.countP_eq_zero.mpr fun call member => Bool.eq_false_iff.mp (noLoad call member)
      show ((l.advance m).play rest).submitted.countP Call.isLoad = _
      rw [ih, made, List.countP_append, none, Nat.add_zero]

/-- The settings are asked for once, so they come once. -/
theorem Balanced.loaded (h : l.Balanced) (once : l.submitted.countP Call.isLoad = 1)
    {answer : Except Backend.Failure (Option Settings)} {rest : List Answer}
    (comes : l.desk.mail.answers = .settingsLoaded answer :: rest) (t : Desk.Moment) :
    (l.advance (.take t)).Loaded := by
  obtain ⟨call, more, oldest, ⟨service, answers⟩, left⟩ := h.oldest comes
  have isLoad : call.isLoad = true := by
    cases call with
    | loadSettings => rfl
    | _ => cases answers
  have none : more.countP Call.isLoad = 0 := by
    have all : l.submitted.take l.drained.length ++ call :: more = l.submitted :=
      oldest ▸ List.take_append_drop _ _
    rw [← all, List.countP_append, List.countP_cons, if_pos isLoad] at once
    omega
  obtain ⟨calls, made, noLoad, -⟩ := l.advance_edits (.take t)
  have same : callsOf l.desk (.take t) = calls := List.append_cancel_left made
  have taken : answersOf l.desk (.take t) = [.settingsLoaded answer] := by
    simp [answersOf, comes]
  refine ⟨h.advance (l.advance_cases _), ?_⟩
  intro waits
  rw [Ledger.advance, taken, left, same] at waits
  rcases List.mem_append.mp waits with before | now
  · exact List.countP_eq_zero.mp none _ before rfl
  · cases noLoad _ now

/-- The settings and the draft, and with them every save, have the fields of other clients. -/
structure Carries (extra : Fields) (settings : Settings) (dialog : SettingsDialog)
    (saved : List Settings) : Prop where
  settings : settings.extra = extra
  draft : dialog.isOpen = true → dialog.draft.extra = extra
  saved : ∀ s ∈ saved, s.extra = extra

theorem Carries.step {extra : Fields} {settings settings' : Settings}
    {dialog dialog' : SettingsDialog} {saved more : List Settings}
    (h : Carries extra settings dialog saved)
    (edited : Edited settings dialog none settings' dialog' more) :
    Carries extra settings' dialog' (saved ++ more) := by
  cases edited with
  | untouched => rwa [List.append_nil]
  | drafted drafts =>
      rw [List.append_nil]
      refine ⟨h.settings, ?_, h.saved⟩
      intro shown
      cases drafts with
      | opened => exact h.settings
      | edited was same => exact same.trans (h.draft was)
  | saved shown =>
      have draft := h.draft shown
      refine ⟨draft, nofun, ?_⟩
      intro s member
      rcases List.mem_append.mp member with old | new
      · exact h.saved s old
      · exact List.mem_singleton.mp new ▸ draft

/-- When the settings have come and the dialog is closed, with nothing saved in between, every save
from then on has the fields of other clients as the converter keeps them. -/
theorem saves_carry_fields (server : String) (device : Media.Device) (dir : List Char)
    (earlier between later : List Move) (t : Desk.Moment) {settings : Settings}
    {rest : List Answer} {body : String} {doc : Fields}
    (comes : ((fresh server device dir).play earlier).desk.mail.answers =
      .settingsLoaded (.ok (some settings)) :: rest)
    (holds : Json.read body = some (.object doc))
    (read : Backend.loadSettings.read body = .ok (some settings)) :
    let loaded := ((fresh server device dir).play earlier).advance (.take t)
    let ready := loaded.play between
    saves (ready.submitted.drop loaded.submitted.length) = [] →
    ready.desk.dialog.isOpen = false →
    ∀ saved ∈ saves ((ready.play later).submitted.drop ready.submitted.length),
      ∃ fields, saved.encode = .object fields ∧ ∀ name ∉ Settings.names,
        Fields.get? name fields = (Fields.get? name doc.reverse).map Json.canonical := by
  intro loaded ready unsaved closed saved member
  have balanced := (balanced_fresh server device dir).play earlier
  have settled : loaded.Loaded := balanced.loaded (play_loads _ earlier) comes t
  have now : loaded.desk.settings = settings := by
    obtain ⟨calls, -, -, edited⟩ := advance_edits ((fresh server device dir).play earlier) (.take t)
    rw [Desk.arriving, comes] at edited
    exact edited.arrived
  have kept : ready.desk.settings = settings := by
    refine settled.play_keeps (P := fun s _ saved => saved = [] → s = settings) (fun _ => now) ?_
      between unsaved
    intro s dialog saved s' dialog' more same edited none
    obtain ⟨before, added⟩ := List.append_eq_nil_iff.mp none
    rw [edited.unsaved added]
    exact same before
  have start : Carries settings.extra ready.desk.settings ready.desk.dialog [] :=
    ⟨congrArg Settings.extra kept, fun shown => absurd shown (Bool.eq_false_iff.mp closed), by simp⟩
  have carried := ((settled.play between).play_keeps start Carries.step later).saved saved member
  obtain ⟨fields, encoded, others⟩ := saved.get?_encode
  refine ⟨fields, encoded, ?_⟩
  intro name other
  rw [others name other, carried]
  exact Settings.load_extra holds read other

def themedBody : String := "\x7b\"theme\":\"dark\"\x7d"

def themed : Settings := { extra := [("theme", .string "dark")] }

theorem themedBody_holds : Json.read themedBody = some (.object [("theme", .string "dark")]) := by
  have chars : themedBody.toList = ['\x7b', '"', 't', 'h', 'e', 'm', 'e', '"', ':', '"', 'd', 'a',
      'r', 'k', '"', '\x7d'] := by decide
  have parsed : Json.parse themedBody = some (.object [("theme", .string "dark")]) := by
    rw [Json.parse, chars]
    rfl
  rw [Json.read, parsed]
  rfl

theorem themedBody_read : Backend.loadSettings.read themedBody = .ok (some themed) :=
  (Settings.load_iff themedBody_holds).mpr ⟨List.cons_ne_nil _ _, rfl⟩

/-- The settings are the next answer to be taken up, and the dialog is open. -/
def themeComes : Ledger :=
  (fresh "s" .cuda ['/']).play
    (presses [.function 2] ++ List.replicate 3 (.serve (.keeping themed)) ++ [.take ⟨0, .zero⟩])

def themeCame : Ledger := themeComes.advance (.take ⟨0, .zero⟩)

def themeReady : Ledger := themeCame.play (presses [.escape])

def resetMoves : List Move := presses [.function 2, .char 'r', .right, .enter]

/-- The dialog is left and opened again, and the draft is reset and then edited. -/
theorem saves_carry_theme :
    themeComes.desk.mail.answers.head? = some (.settingsLoaded (.ok (some themed))) ∧
    themeComes.desk.dialog.isOpen = true ∧
    Json.read themedBody = some (.object [("theme", .string "dark")]) ∧
    Backend.loadSettings.read themedBody = .ok (some themed) ∧
    saves (themeReady.submitted.drop themeCame.submitted.length) = [] ∧
    themeReady.desk.dialog.isOpen = false ∧
    saves ((themeReady.play resetMoves).submitted.drop themeReady.submitted.length) =
      [{ themed with resilience := 3 }] ∧
    ∃ fields, Settings.encode { themed with resilience := 3 } = .object fields ∧
      Fields.get? "theme" fields = some (.string "dark") := by
  have made : saves ((themeReady.play resetMoves).submitted.drop themeReady.submitted.length) =
      [{ themed with resilience := 3 }] := rfl
  have carried := saves_carry_fields "s" .cuda ['/'] _ (presses [.escape]) resetMoves ⟨0, .zero⟩
    (show themeComes.desk.mail.answers = _ from rfl) themedBody_holds themedBody_read rfl rfl
    { themed with resilience := 3 } (made ▸ List.mem_singleton_self _)
  obtain ⟨fields, encoded, others⟩ := carried
  exact ⟨rfl, rfl, themedBody_holds, themedBody_read, rfl, rfl, made, fields, encoded,
    others "theme" (by decide)⟩

/-- A save that is made before the settings come has no theme, and the converter keeps it. -/
theorem early_save_drops_theme :
    Json.read themedBody = some (.object [("theme", .string "dark")]) ∧
    Backend.loadSettings.read themedBody = .ok (some themed) ∧
    saves (editedFirst themed).submitted = [{ resilience := 3 }] ∧
    (editedFirst themed).kept = some { resilience := 3 } ∧
    ∃ fields, Settings.encode { resilience := 3 } = .object fields ∧
      Fields.get? "theme" fields = none := by
  refine ⟨themedBody_holds, themedBody_read, rfl, rfl, ?_⟩
  obtain ⟨fields, encoded, others⟩ := Settings.get?_encode { resilience := 3 }
  exact ⟨fields, encoded, others "theme" (by decide)⟩

end Ledger

end KeySheet
