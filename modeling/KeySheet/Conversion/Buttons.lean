import KeySheet.Media.Source

/-! The two convert buttons. At most one of them is active, as the control that stops the running
conversion; the other one is then disabled. They are kept as a bank of records, of which the few
states that can come about are told apart here by their names. -/
namespace KeySheet.Conversion

inductive Button where
  | link
  | mp3
  deriving DecidableEq, Repr

namespace Button

def all : List Button := [link, mp3]

/-- Shown while no conversion runs. -/
def idleLabel : Button → String
  | link => "Convert Link"
  | mp3 => "Convert MP3"

/-- Video links have a button of their own; everything else goes through the other one. -/
def ofSource (s : Media.Source) : Button :=
  match Media.Kind.detect s.url.toList with
  | some .youtube | some .tiktok => link
  | _ => mp3

end Button

/-- What a button does when pressed. -/
inductive Mode where
  | idle
  | converting
  | stopping
  deriving DecidableEq, Repr

/-- What stands on a button. -/
def Mode.label (mode : Mode) (b : Button) : String :=
  match mode with
  | .idle => b.idleLabel
  | .converting => "Stop Conversion"
  | .stopping => "Stopping..."

/-! ## The records -/

structure ButtonState where
  id : Button
  mode : Mode := .idle
  disabled : Bool := false
  deriving DecidableEq, Repr

def ButtonState.label (b : ButtonState) : String := b.mode.label b.id

/-- All buttons, and which of them is the stop control, if any. -/
structure ButtonBank where
  buttons : List ButtonState := Button.all.map ({ id := · })
  active : Option Button := none
  deriving DecidableEq, Repr

namespace ButtonBank

/-- Turns a button into the stop control and disables the others. -/
def begin (bank : ButtonBank) (id : Button) : ButtonBank where
  active := some id
  buttons := bank.buttons.map (fun b =>
    if b.id = id then { b with mode := .converting, disabled := false }
    else { b with mode := .idle, disabled := true })

/-- The first record of a button, changed. -/
def changeFirst (id : Button) (change : ButtonState → ButtonState) :
    List ButtonState → List ButtonState
  | [] => []
  | b :: rest => if b.id = id then change b :: rest else b :: changeFirst id change rest

/-- The stop control was pressed, and is disabled. -/
def stopping (bank : ButtonBank) : ButtonBank :=
  match bank.active with
  | none => bank
  | some id => { bank with
      buttons := changeFirst id (fun b => { b with mode := .stopping, disabled := true })
        bank.buttons }

def resetAll (bank : ButtonBank) : ButtonBank where
  active := none
  buttons := bank.buttons.map (fun b => { b with mode := .idle, disabled := false })

/-- The record of a button; each has one from the start, and the first stands in for none. -/
def get? (bank : ButtonBank) (id : Button) : Option ButtonState :=
  (bank.buttons.find? (fun b => b.id == id)).or bank.buttons.head?

/-- Every button is idle and enabled. -/
def isReset (bank : ButtonBank) : Bool :=
  bank.active.isNone && bank.buttons.all (fun b => b.mode == .idle && !b.disabled)

end ButtonBank

/-! ## The states -/

/-- Both buttons: at rest, or one of them active. -/
inductive Buttons where
  | reset
  | converting (active : Button)
  | stopping (active : Button)
  deriving DecidableEq, Repr

namespace Buttons

/-- Turns a button into the stop control. -/
def begin (_ : Buttons) (b : Button) : Buttons := .converting b

/-- The stop control was pressed. -/
def markStopping : Buttons → Buttons
  | reset => reset
  | converting b | stopping b => stopping b

def active : Buttons → Option Button
  | reset => none
  | converting b | stopping b => some b

def isReset : Buttons → Bool
  | reset => true
  | _ => false

def mode (s : Buttons) (b : Button) : Mode :=
  match s with
  | reset => .idle
  | converting a => if a = b then .converting else .idle
  | stopping a => if a = b then .stopping else .idle

/-- The button that stops is enabled until it is pressed; the other one is not. -/
def isDisabled (s : Buttons) (b : Button) : Bool :=
  match s with
  | reset => false
  | converting a => a != b
  | stopping _ => true

def label (s : Buttons) (b : Button) : String := (s.mode b).label b

theorem isReset_iff (s : Buttons) :
    s.isReset = true ↔ ∀ b, s.mode b = .idle ∧ s.isDisabled b = false := by
  constructor
  · intro h b
    cases s <;> simp_all [isReset, mode, isDisabled]
  · intro h
    cases s with
    | reset => rfl
    | converting a => have := (h a).1; simp [mode] at this
    | stopping a => have := (h a).1; simp [mode] at this

/-! ## The records of each state -/

/-- The bank in this state. -/
def bank (s : Buttons) : ButtonBank where
  buttons := Button.all.map (fun b => ⟨b, s.mode b, s.isDisabled b⟩)
  active := s.active

theorem bank_reset : reset.bank = {} := rfl

theorem bank_begin (s : Buttons) (b : Button) : (s.begin b).bank = s.bank.begin b := by
  cases b <;> rfl

theorem bank_markStopping (s : Buttons) : s.markStopping.bank = s.bank.stopping := by
  cases s with
  | reset => rfl
  | converting a | stopping a => cases a <;> rfl

theorem bank_resetAll (s : Buttons) : reset.bank = s.bank.resetAll := rfl

theorem get?_bank (s : Buttons) (b : Button) :
    s.bank.get? b = some ⟨b, s.mode b, s.isDisabled b⟩ := by
  cases b <;> rfl

theorem isReset_bank (s : Buttons) : s.bank.isReset = s.isReset := by
  cases s with
  | reset => rfl
  | converting a | stopping a => rfl

/-- What is done with the buttons. -/
inductive Change where
  | begin (b : Button)
  | stopping
  | reset
  deriving DecidableEq, Repr

def change (s : Buttons) : Change → Buttons
  | .begin b => s.begin b
  | .stopping => s.markStopping
  | .reset => .reset

end Buttons

def ButtonBank.change (bank : ButtonBank) : Buttons.Change → ButtonBank
  | .begin b => bank.begin b
  | .stopping => bank.stopping
  | .reset => bank.resetAll

theorem Buttons.bank_change (s : Buttons) (c : Change) : (s.change c).bank = s.bank.change c := by
  cases c with
  | begin b => exact s.bank_begin b
  | stopping => exact s.bank_markStopping
  | reset => exact s.bank_resetAll

/-- The records of a bank, whatever was done with it, are those of a state. -/
theorem ButtonBank.run_eq_bank (changes : List Buttons.Change) :
    changes.foldl ButtonBank.change {} = (changes.foldl Buttons.change .reset).bank := by
  rw [← Buttons.bank_reset]
  generalize Buttons.reset = s
  induction changes generalizing s with
  | nil => rfl
  | cons c rest ih =>
      rw [List.foldl_cons, List.foldl_cons, ← s.bank_change]
      exact ih (s.change c)

end KeySheet.Conversion
