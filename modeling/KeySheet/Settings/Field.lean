import KeySheet.Settings.Basic
import KeySheet.Text.Integer

/-! The rows of the settings dialog: what each is called, what it shows and how it is stepped.
Steps are taken on words of 32 bits, before the value is clamped, and one that leaves these words
is no step at all: the program ends there. -/
namespace KeySheet

/-- The numbers that a word of 32 bits, with its sign, can hold. -/
def IsWord (n : Int) : Prop := -0x80000000 ≤ n ∧ n < 0x80000000

instance : DecidablePred IsWord := fun _ => instDecidableAnd

/-- A number as a word, if it is one. -/
def word? (n : Int) : Option Int := if IsWord n then some n else none

theorem word?_eq_some {n m : Int} : word? n = some m ↔ IsWord n ∧ n = m := by
  simp [word?]

theorem word?_eq_none {n : Int} : word? n = none ↔ ¬ IsWord n := by
  simp [word?]

namespace Settings

inductive Field where
  | resilience
  | quantize
  | breakLines
  | breakEvery
  | placeShifted
  | placeOutOfRange
  | classicChordOrder
  | sequentialQuantizes
  | bracesForQuantized
  | includeOutOfRange
  | showTempoMarks
  | showOutOfRangeMarks
  | showBpmComments
  | autoTranspose
  deriving DecidableEq, Repr

namespace Field

/-- In the order of the dialog. -/
def all : List Field :=
  [resilience, quantize, breakLines, breakEvery, placeShifted, placeOutOfRange, classicChordOrder,
    sequentialQuantizes, bracesForQuantized, includeOutOfRange, showTempoMarks,
    showOutOfRangeMarks, showBpmComments, autoTranspose]

def label : Field → String
  | resilience => "Resilience"
  | quantize => "Quantize (ms)"
  | breakLines => "Break lines"
  | breakEvery => "Break lines every"
  | placeShifted => "Shifted notes"
  | placeOutOfRange => "Out-of-range notes"
  | classicChordOrder => "Classic chord order"
  | sequentialQuantizes => "Sequential quantizes"
  | bracesForQuantized => "Braces for quantized chords"
  | includeOutOfRange => "Include out-of-range"
  | showTempoMarks => "Tempo timing marks"
  | showOutOfRangeMarks => "Out-of-range text marks"
  | showBpmComments => "BPM changes as comments"
  | autoTranspose => "Auto transpose"

def onOff (b : Bool) : String := if b then "On" else "Off"

/-- What the row shows. -/
def value (f : Field) (s : Settings) : String :=
  match f with
  | resilience => Text.showNat s.resilience.toNat
  | quantize => Text.showNat s.quantize.toNat
  | breakLines => match s.breakLines with
      | .never => "Never"
      | .manually => "Manually"
  | breakEvery => Text.showNat s.breakEvery.toNat
  | placeShifted => match s.placeShifted with
      | .start => "Start"
      | .final => "End"
  | placeOutOfRange => match s.placeOutOfRange with
      | .start => "Start"
      | .final => "End"
      | .inOrder => "Inorder"
  | classicChordOrder => onOff s.classicChordOrder
  | sequentialQuantizes => onOff s.sequentialQuantizes
  | bracesForQuantized => onOff s.bracesForQuantized
  | includeOutOfRange => onOff s.includeOutOfRange
  | showTempoMarks => onOff s.showTempoMarks
  | showOutOfRangeMarks => onOff s.showOutOfRangeMarks
  | showBpmComments => onOff s.showBpmComments
  | autoTranspose => onOff s.autoTranspose

/-- A number moved by a step and brought back between two bounds. -/
def stepped? (value : Nat) (step : Int) (lo hi : Nat) : Option Nat :=
  (word? (value + step)).map (fun sum => (max (lo : Int) (min (hi : Int) sum)).toNat)

def flipBreaks : LineBreaks → LineBreaks
  | .never => .manually
  | .manually => .never

def flipShifted : ShiftedPlacement → ShiftedPlacement
  | .start => .final
  | .final => .start

/-- Through the three placements, forwards or backwards. -/
def cycleOutOfRange (forwards : Bool) : OutOfRangePlacement → OutOfRangePlacement
  | .inOrder => if forwards then .start else .final
  | .start => if forwards then .final else .inOrder
  | .final => if forwards then .inOrder else .start

/-- Moves the row by a step, if all sums on the way are words. Two-valued rows flip whatever the step;
the row of three follows its sign. -/
def adjust? (f : Field) (delta : Int32) (s : Settings) : Option Settings :=
  match f with
  | resilience =>
      (stepped? s.resilience.toNat delta.toInt 0 10).map (fun n =>
        { s with resilience := UInt8.ofNat n })
  | quantize =>
      ((word? (delta.toInt * 5)).bind (fun step => stepped? s.quantize.toNat step 0 500)).map
        (fun n => { s with quantize := UInt16.ofNat n })
  | breakLines => some { s with breakLines := flipBreaks s.breakLines }
  | breakEvery =>
      (stepped? s.breakEvery.toNat delta.toInt 1 32).map (fun n =>
        { s with breakEvery := UInt8.ofNat n })
  | placeShifted => some { s with placeShifted := flipShifted s.placeShifted }
  | placeOutOfRange =>
      some { s with placeOutOfRange := cycleOutOfRange (0 ≤ delta) s.placeOutOfRange }
  | classicChordOrder => some { s with classicChordOrder := !s.classicChordOrder }
  | sequentialQuantizes => some { s with sequentialQuantizes := !s.sequentialQuantizes }
  | bracesForQuantized => some { s with bracesForQuantized := !s.bracesForQuantized }
  | includeOutOfRange => some { s with includeOutOfRange := !s.includeOutOfRange }
  | showTempoMarks => some { s with showTempoMarks := !s.showTempoMarks }
  | showOutOfRangeMarks => some { s with showOutOfRangeMarks := !s.showOutOfRangeMarks }
  | showBpmComments => some { s with showBpmComments := !s.showBpmComments }
  | autoTranspose => some { s with autoTranspose := !s.autoTranspose }

/-- The steps of the keys. -/
def unit (forwards : Bool) : Int32 := if forwards then 1 else -1

theorem stepped?_unit {value : Nat} (small : value < 65536) {step : Int} (near : -5 ≤ step)
    (near' : step ≤ 5) (lo hi : Nat) : (stepped? value step lo hi).isSome = true := by
  have word : IsWord (value + step) := ⟨by omega, by omega⟩
  rw [stepped?, word?, if_pos word]
  rfl

/-- No step of a key leaves the words. -/
theorem adjust?_unit (f : Field) (forwards : Bool) (s : Settings) :
    (f.adjust? (unit forwards) s).isSome = true := by
  have byte (n : UInt8) : n.toNat < 65536 := Nat.lt_trans n.toNat_lt (by decide)
  have units : (unit forwards).toInt = if forwards then 1 else -1 := by cases forwards <;> decide
  have near : -1 ≤ (unit forwards).toInt ∧ (unit forwards).toInt ≤ 1 := by
    rw [units]
    cases forwards <;> decide
  cases f with
  | resilience =>
      rw [adjust?, Option.isSome_map]
      exact stepped?_unit (byte _) (by omega) (by omega) 0 10
  | breakEvery =>
      rw [adjust?, Option.isSome_map]
      exact stepped?_unit (byte _) (by omega) (by omega) 1 32
  | quantize =>
      have word : IsWord ((unit forwards).toInt * 5) := ⟨by omega, by omega⟩
      rw [adjust?, Option.isSome_map, word?, if_pos word, Option.bind_some]
      exact stepped?_unit s.quantize.toNat_lt (by omega) (by omega) 0 500
  | _ => rfl

/-- Moves the row by one, as the keys do. -/
def step (f : Field) (forwards : Bool) (s : Settings) : Settings :=
  (f.adjust? (unit forwards) s).get (f.adjust?_unit forwards s)

theorem mem_all (f : Field) : f ∈ all := by cases f <;> decide

end Field

end Settings

end KeySheet
