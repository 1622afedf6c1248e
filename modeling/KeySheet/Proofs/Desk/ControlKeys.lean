import KeySheet.Proofs.Desk.Overlays
import KeySheet.Screen.Help
import KeySheet.Text.Parts

/-! Characters typed with Ctrl, against what the help says of them. In the field of the link only the
combinations of the help do anything. In the other panels Ctrl is not looked at: a letter that the
help has for the panel does the same with Ctrl as without it, and all other characters do nothing. -/
namespace KeySheet

namespace Screen

/-- The names of keys, as they stand in the rows of a section. -/
def HelpSection.names (s : HelpSection) : List (List Char) :=
  s.keys.flatMap (fun key => Text.parts (· == ' ') key.1.toList)

/-- The keys that are named by a character; a slash stands between two names. -/
def HelpSection.letters (s : HelpSection) : List Char :=
  s.names.filterMap fun
    | ['/'] => none
    | [c] => some c
    | _ => none

/-- The characters that are named together with Ctrl. -/
def HelpSection.controls (s : HelpSection) : List Char :=
  s.names.filterMap fun name =>
    match Text.stripHead "Ctrl+".toList name with
    | some [c] => some c.toLower
    | _ => none

end Screen

namespace Desk

open Screen (HelpSection helpSections)

/-- The section of the help on a panel. -/
def Focus.title : Focus → String
  | .input => "Convert"
  | .history => "History"
  | .viewer => "Sheet Viewer"

/-- What the help says of the keys in a panel: what it says in general and of the panel. -/
def Focus.help (f : Focus) : List HelpSection :=
  helpSections.filter (fun s => s.title = "General" ∨ s.title = f.title)

def Focus.letters (f : Focus) : List Char := f.help.flatMap HelpSection.letters

/-- The combinations with Ctrl that are known in a panel: those of the help, and the one that opens
the browser everywhere. -/
def Focus.controls (f : Focus) : List Char := 'o' :: f.help.flatMap HelpSection.controls

theorem controls_input : Focus.input.controls = ['o', 'c', 'q', 'u', 'd', 'v'] := by decide +kernel

theorem controls_other {f : Focus} (other : f ≠ .input) : f.controls = ['o', 'c', 'q'] := by
  cases f with
  | input => exact absurd rfl other
  | history | viewer => decide +kernel

theorem letters_history : Focus.history.letters = ['?', 'k', 'j', 'd', 'o'] := by decide +kernel

theorem letters_viewer : Focus.viewer.letters = ['?', 'k', 'j', 'm', 't', 's', 'e'] := by
  decide +kernel

variable {d : Desk} {c : Char}

theorem isQuit_letter (c : Char) : isQuit { key := .char c } = false := rfl

theorem isQuit_control (c : Char) :
    isQuit { key := .char c, ctrl := true } = true ↔ c = 'c' ∨ c = 'q' := by
  simp [isQuit_iff]

theorem press_leaves (d : Desk) (t : Moment) (files : Files.Tree) (leaves : c = 'c' ∨ c = 'q') :
    d.press t files { key := .char c, ctrl := true } = ⟨d, files, true⟩ := by
  unfold press
  rw [(isQuit_control c).mpr leaves]
  rfl

theorem press_control (clear : d.overlay? = none) (t : Moment) (files : Files.Tree)
    (stays : ¬ (c = 'c' ∨ c = 'q')) :
    d.press t files { key := .char c, ctrl := true } =
      ((d.globalKey t files { key := .char c, ctrl := true }).map (⟨·, files, false⟩)).getD
        (d.panelKey t files { key := .char c, ctrl := true }) := by
  apply press_clear d t files _ clear
  rw [← isQuit_control, Bool.not_eq_true] at stays
  exact stays

theorem press_browser (clear : d.overlay? = none) (t : Moment) (files : Files.Tree) :
    d.press t files { key := .char 'o', ctrl := true } = ⟨d.openBrowser files, files, false⟩ := by
  rw [press_control clear t files (by decide)]
  rfl

theorem globalKey_input (focused : d.focus = .input) (t : Moment) (files : Files.Tree)
    (other : c ≠ 'o') : d.globalKey t files { key := .char c, ctrl := true } = none := by
  unfold globalKey
  split <;> simp_all

theorem press_input (clear : d.overlay? = none) (focused : d.focus = .input) (t : Moment)
    (files : Files.Tree) (stays : ¬ (c = 'c' ∨ c = 'q')) (other : c ≠ 'o') :
    d.press t files { key := .char c, ctrl := true } =
      ⟨if c = 'u' then { d with url := "" }
        else if c = 'd' then d.toggleDevice t.now
        else if c = 'v' then d.openLastResult
        else d, files, false⟩ := by
  have panel : d.panelKey t files { key := .char c, ctrl := true } =
      ⟨d.inputKey t { key := .char c, ctrl := true }, files, false⟩ := by
    unfold panelKey
    rw [focused]
  rw [press_control clear t files stays, globalKey_input focused t files other, panel]
  simp [inputKey]

/-- In the other panels, only Ctrl with the letter of the browser is told from the letter alone. -/
theorem press_alone (clear : d.overlay? = none) (focused : d.focus ≠ .input) (t : Moment)
    (files : Files.Tree) (stays : ¬ (c = 'c' ∨ c = 'q')) (other : c ≠ 'o') :
    d.press t files { key := .char c, ctrl := true } = d.press t files { key := .char c } := by
  have same : d.globalKey t files { key := .char c, ctrl := true } =
      d.globalKey t files { key := .char c } := by
    unfold globalKey
    split <;> simp_all
  have panel : d.panelKey t files { key := .char c, ctrl := true } =
      d.panelKey t files { key := .char c } := by
    unfold panelKey
    cases place : d.focus with
    | input => exact absurd place focused
    | history | viewer => rfl
  rw [press_control clear t files stays, press_clear d t files (isQuit_letter c) clear, same, panel]

theorem globalKey_letter (d : Desk) (t : Moment) (files : Files.Tree) (unnamed : c ≠ '?') :
    d.globalKey t files { key := .char c } = none := by
  unfold globalKey
  split <;> simp_all

theorem historyKey_other (d : Desk) (t : Moment) (files : Files.Tree)
    (unnamed : c ∉ Focus.history.letters) : d.historyKey t files (.char c) = d := by
  rw [letters_history] at unnamed
  unfold historyKey
  split <;> simp_all

theorem viewerKey_other (d : Desk) (t : Moment) (files : Files.Tree)
    (unnamed : c ∉ Focus.viewer.letters) : d.viewerKey t files (.char c) = ⟨d, files, false⟩ := by
  rw [letters_viewer] at unnamed
  unfold viewerKey
  split <;> simp_all

theorem press_unnamed (clear : d.overlay? = none) (focused : d.focus ≠ .input) (t : Moment)
    (files : Files.Tree) (unnamed : c ∉ d.focus.letters) :
    d.press t files { key := .char c } = ⟨d, files, false⟩ := by
  have general : c ≠ '?' := by
    rintro rfl
    cases place : d.focus with
    | input => exact absurd place focused
    | history | viewer => exact unnamed (by rw [place]; decide +kernel)
  rw [press_clear d t files (isQuit_letter c) clear, globalKey_letter d t files general]
  show d.panelKey t files { key := .char c } = _
  unfold panelKey
  cases place : d.focus with
  | input => exact absurd place focused
  | history =>
      rw [place] at unnamed
      rw [historyKey_other d t files unnamed]
  | viewer =>
      rw [place] at unnamed
      exact viewerKey_other d t files unnamed

/-- With nothing on top of the panels, Ctrl with a character leaves, opens the browser, or does what
the help says of it in the field of the link. All other characters do nothing there; in the history
and the viewer, Ctrl is not looked at, so those that the help has as letters do what they do alone,
and only the rest do nothing. -/
theorem control_is_heeded_in_the_link (d : Desk) (clear : d.overlay? = none) (t : Moment)
    (files : Files.Tree) (c : Char) :
    let pressed := d.press t files { key := .char c, ctrl := true }
    (c = 'c' ∨ c = 'q' → pressed = ⟨d, files, true⟩) ∧
    (c = 'o' → pressed = ⟨d.openBrowser files, files, false⟩) ∧
    (d.focus = .input → c = 'u' → pressed = ⟨{ d with url := "" }, files, false⟩) ∧
    (d.focus = .input → c = 'd' → pressed = ⟨d.toggleDevice t.now, files, false⟩) ∧
    (d.focus = .input → c = 'v' → pressed = ⟨d.openLastResult, files, false⟩) ∧
    (c ∉ d.focus.controls →
      (d.focus = .input ∨ c ∉ d.focus.letters → pressed = ⟨d, files, false⟩) ∧
      (d.focus ≠ .input → pressed = d.press t files { key := .char c })) := by
  intro pressed
  refine ⟨press_leaves d t files, ?_, ?_, ?_, ?_, ?_⟩
  · rintro rfl
    exact press_browser clear t files
  · rintro focused rfl
    exact press_input clear focused t files (by decide) (by decide)
  · rintro focused rfl
    exact press_input clear focused t files (by decide) (by decide)
  · rintro focused rfl
    exact press_input clear focused t files (by decide) (by decide)
  · intro unknown
    by_cases focused : d.focus = .input
    · rw [focused, controls_input] at unknown
      simp only [List.mem_cons, List.not_mem_nil, not_or] at unknown
      obtain ⟨other, copy, quit, erase, device, result, -⟩ := unknown
      refine ⟨fun _ => ?_, fun away => absurd focused away⟩
      show d.press t files { key := .char c, ctrl := true } = _
      rw [press_input clear focused t files (by simp [copy, quit]) other, if_neg erase,
        if_neg device, if_neg result]
    · rw [controls_other focused] at unknown
      simp only [List.mem_cons, List.not_mem_nil, not_or] at unknown
      obtain ⟨other, copy, quit, -⟩ := unknown
      have alone := press_alone clear focused t files (by simp [copy, quit]) other
      refine ⟨?_, fun _ => alone⟩
      rintro (inside | unnamed)
      · exact absurd inside focused
      · exact alone.trans (press_unnamed clear focused t files unnamed)

/-- A desk with two conversions in the history and a sheet of three lines in the viewer. -/
def stocked (focus : Focus) : Desk :=
  { start "s" .cuda ['/'] with
    focus := focus
    mail := {}
    history := ⟨[.ofResult (.ofNat 2) {}, .ofResult (.ofNat 1) {}, .ofResult .zero {}], 1, 0⟩
    viewer :=
      { isOpen := true
        midi := some "a.mid"
        sheet := some { text := "a\nb\nc", fileName := none }
        layout := Sheet.layout "a\nb\nc".toList
        scroll := 1
        visibleRows := 1 } }

/-- Some of what a key can change. -/
def glimpse (d : Desk) : Bool × Nat × Nat × Nat × Bool × Bool :=
  (d.helpShown, d.history.selected, d.mail.calls.length, d.viewer.scroll, d.viewer.showTransposes,
    d.notice.isSome)

theorem control_letters_act :
    (∀ f ∈ [Focus.history, .viewer], (stocked f).overlay? = none ∧
      ∀ c ∈ f.letters, c ∉ f.controls →
        glimpse ((stocked f).press ⟨0, .zero⟩ .empty { key := .char c, ctrl := true }).desk ≠
          glimpse (stocked f)) ∧
    ((stocked .history).press ⟨0, .zero⟩ .empty { key := .char 'd', ctrl := true }).desk.mail.calls =
      [.deleteHistory (.ofNat 1)] := by
  refine ⟨?_, rfl⟩
  -- One letter after the other.
  intro f member
  rw [List.mem_cons, List.mem_singleton] at member
  rcases member with rfl | rfl
  · refine ⟨rfl, ?_⟩
    rw [letters_history]
    simp only [List.forall_mem_cons, List.not_mem_nil, false_implies, implies_true, and_true]
    refine ⟨?_, ?_, ?_, ?_, ?_⟩ <;> decide +kernel
  · refine ⟨rfl, ?_⟩
    rw [letters_viewer]
    simp only [List.forall_mem_cons, List.not_mem_nil, false_implies, implies_true, and_true]
    refine ⟨?_, ?_, ?_, ?_, ?_, ?_, ?_⟩ <;> decide +kernel

theorem control_in_history_acts_as_alone :
    (stocked .history).overlay? = none ∧
    (stocked .history).press ⟨0, .zero⟩ .empty { key := .char 'x', ctrl := true } =
      ⟨stocked .history, .empty, false⟩ ∧
    (stocked .history).press ⟨0, .zero⟩ .empty { key := .char 'd', ctrl := true } =
      (stocked .history).press ⟨0, .zero⟩ .empty { key := .char 'd' } := by
  have clear : (stocked .history).overlay? = none := rfl
  obtain ⟨-, -, -, -, -, idle⟩ :=
    control_is_heeded_in_the_link (stocked .history) clear ⟨0, .zero⟩ .empty 'x'
  obtain ⟨-, -, -, -, -, alone⟩ :=
    control_is_heeded_in_the_link (stocked .history) clear ⟨0, .zero⟩ .empty 'd'
  refine ⟨clear, ?_, ?_⟩
  · exact (idle (by decide +kernel)).1 (.inr (by decide +kernel))
  · exact (alone (by decide +kernel)).2 nofun

end Desk

end KeySheet
