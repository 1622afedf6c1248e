import KeySheet.Settings.Field

/-! Steps of the settings dialog. A step changes its own row and nothing else; choices and switches
go to another value and come back with the opposite step. Numbers move by their unit and stay
between their bounds, exactly as long as the step and the sum are words of 32 bits: beyond that there
is no value at all, although the clamp would bring the sum back. -/
namespace KeySheet.Settings

/-- A row with a number: its bounds, and what a step of one is worth. -/
structure Scale where
  lo : Nat
  hi : Nat
  unit : Int
  deriving DecidableEq, Repr

/-- The nearest number between the bounds. -/
def Scale.clamp (c : Scale) (n : Int) : Int := max c.lo (min c.hi n)

namespace Field

/-- The rows with numbers. -/
def scale? : Field → Option Scale
  | resilience => some ⟨0, 10, 1⟩
  | quantize => some ⟨0, 500, 5⟩
  | breakEvery => some ⟨1, 32, 1⟩
  | _ => none

/-- The number of a row, zero for the rows without one. -/
def number (f : Field) (s : Settings) : Nat :=
  match f with
  | resilience => s.resilience.toNat
  | quantize => s.quantize.toNat
  | breakEvery => s.breakEvery.toNat
  | _ => 0

/-- Settings that differ in one row at most. -/
structure SameBut (f : Field) (s t : Settings) : Prop where
  resilience : f ≠ .resilience → t.resilience = s.resilience
  placeShifted : f ≠ .placeShifted → t.placeShifted = s.placeShifted
  placeOutOfRange : f ≠ .placeOutOfRange → t.placeOutOfRange = s.placeOutOfRange
  breakLines : f ≠ .breakLines → t.breakLines = s.breakLines
  breakEvery : f ≠ .breakEvery → t.breakEvery = s.breakEvery
  quantize : f ≠ .quantize → t.quantize = s.quantize
  classicChordOrder : f ≠ .classicChordOrder → t.classicChordOrder = s.classicChordOrder
  sequentialQuantizes : f ≠ .sequentialQuantizes → t.sequentialQuantizes = s.sequentialQuantizes
  bracesForQuantized : f ≠ .bracesForQuantized → t.bracesForQuantized = s.bracesForQuantized
  includeOutOfRange : f ≠ .includeOutOfRange → t.includeOutOfRange = s.includeOutOfRange
  showTempoMarks : f ≠ .showTempoMarks → t.showTempoMarks = s.showTempoMarks
  showOutOfRangeMarks : f ≠ .showOutOfRangeMarks → t.showOutOfRangeMarks = s.showOutOfRangeMarks
  outOfRangeSeparator : t.outOfRangeSeparator = s.outOfRangeSeparator
  showBpmComments : f ≠ .showBpmComments → t.showBpmComments = s.showBpmComments
  autoTranspose : f ≠ .autoTranspose → t.autoTranspose = s.autoTranspose
  multiTranspose : t.multiTranspose = s.multiTranspose
  extra : t.extra = s.extra

variable (f : Field) (delta : Int32) (s : Settings) {t : Settings}

theorem adjust?_sameBut (moved : f.adjust? delta s = some t) : SameBut f s t := by
  cases f
  -- The rows with numbers first, which need not give anything.
  case resilience =>
    obtain ⟨n, -, rfl⟩ := Option.map_eq_some_iff.mp moved
    constructor <;> simp
  case quantize =>
    obtain ⟨n, -, rfl⟩ := Option.map_eq_some_iff.mp moved
    constructor <;> simp
  case breakEvery =>
    obtain ⟨n, -, rfl⟩ := Option.map_eq_some_iff.mp moved
    constructor <;> simp
  all_goals
    cases moved
    constructor <;> simp

/-! ## Numbers -/

theorem stepped?_eq_some {c : Scale} {value n : Nat} {step : Int} :
    stepped? value step c.lo c.hi = some n ↔
      IsWord (value + step) ∧ (n : Int) = c.clamp (value + step) := by
  simp only [stepped?, Option.map_eq_some_iff, word?_eq_some, Scale.clamp]
  constructor
  · rintro ⟨sum, ⟨word, rfl⟩, rfl⟩
    exact ⟨word, by omega⟩
  · rintro ⟨word, same⟩
    exact ⟨_, ⟨word, rfl⟩, by omega⟩

theorem stepped?_eq_none {value : Nat} {step : Int} {lo hi : Nat} :
    stepped? value step lo hi = none ↔ ¬ IsWord (value + step) := by
  simp only [stepped?, Option.map_eq_none_iff, word?_eq_none]

theorem isWord_toInt : IsWord delta.toInt :=
  ⟨delta.le_toInt, delta.toInt_lt⟩

/-- A row with a number moves as long as its step and the sum are words. -/
theorem adjust?_eq_none {c : Scale} (row : f.scale? = some c) :
    f.adjust? delta s = none ↔
      ¬ (IsWord (c.unit * delta.toInt) ∧ IsWord (f.number s + c.unit * delta.toInt)) := by
  have small := isWord_toInt delta
  cases f <;> cases row
  case resilience =>
    simp only [adjust?, Option.map_eq_none_iff, stepped?_eq_none, number, Int.one_mul, small,
      true_and]
  case quantize =>
    rw [adjust?, Option.map_eq_none_iff, Int.mul_comm 5]
    by_cases word : IsWord (delta.toInt * 5)
    · rw [word?_eq_some.mpr ⟨word, rfl⟩, Option.bind_some, stepped?_eq_none]
      simp only [number, word, true_and]
    · simp only [word?_eq_none.mpr word, Option.bind_none, word, false_and, not_false_eq_true]
  case breakEvery =>
    simp only [adjust?, Option.map_eq_none_iff, stepped?_eq_none, number, Int.one_mul, small,
      true_and]

theorem stepped?_le {value n lo hi : Nat} {step : Int} (order : lo ≤ hi)
    (moved : stepped? value step lo hi = some n) : n ≤ hi := by
  obtain ⟨sum, -, rfl⟩ := Option.map_eq_some_iff.mp moved
  omega

/-- The number of a row moves by its unit and is then clamped. -/
theorem adjust?_number {c : Scale} (row : f.scale? = some c) (moved : f.adjust? delta s = some t) :
    (f.number t : Int) = c.clamp (f.number s + c.unit * delta.toInt) := by
  cases f <;> cases row
  case resilience =>
    obtain ⟨n, sum, rfl⟩ := Option.map_eq_some_iff.mp moved
    have small := Nat.lt_of_le_of_lt (stepped?_le (Nat.zero_le 10) sum) (show 10 < 256 by decide)
    rw [number, UInt8.toNat_ofNat_of_lt' small, Int.one_mul]
    exact (stepped?_eq_some (c := ⟨0, 10, 1⟩).mp sum).2
  case quantize =>
    obtain ⟨n, stepped, rfl⟩ := Option.map_eq_some_iff.mp moved
    obtain ⟨step, word, sum⟩ := Option.bind_eq_some_iff.mp stepped
    obtain ⟨-, rfl⟩ := word?_eq_some.mp word
    have small := Nat.lt_of_le_of_lt (stepped?_le (Nat.zero_le 500) sum) (show 500 < 65536 by decide)
    rw [number, UInt16.toNat_ofNat_of_lt' small, Int.mul_comm 5]
    exact (stepped?_eq_some (c := ⟨0, 500, 5⟩).mp sum).2
  case breakEvery =>
    obtain ⟨n, sum, rfl⟩ := Option.map_eq_some_iff.mp moved
    have small := Nat.lt_of_le_of_lt (stepped?_le (by decide) sum) (show 32 < 256 by decide)
    rw [number, UInt8.toNat_ofNat_of_lt' small, Int.one_mul]
    exact (stepped?_eq_some (c := ⟨1, 32, 1⟩).mp sum).2

/-! ## Choices and switches -/

/-- A row without a number shows something else after any step. -/
theorem adjust?_moves (choice : f.scale? = none) :
    ∃ t, f.adjust? delta s = some t ∧ f.value t ≠ f.value s := by
  have switch (b : Bool) : onOff (!b) ≠ onOff b := by cases b <;> decide
  cases f <;> try cases choice
  case breakLines =>
    refine ⟨_, rfl, ?_⟩
    simp only [value]
    cases s.breakLines <;> decide
  case placeShifted =>
    refine ⟨_, rfl, ?_⟩
    simp only [value]
    cases s.placeShifted <;> decide
  case placeOutOfRange =>
    refine ⟨_, rfl, ?_⟩
    simp only [value]
    cases decide (0 ≤ delta) <;> cases s.placeOutOfRange <;> decide
  all_goals exact ⟨_, rfl, switch _⟩

theorem forwards_neg (moves : delta ≠ 0) (negatable : delta ≠ Int32.minValue) :
    decide (0 ≤ -delta) = !decide (0 ≤ delta) := by
  have least : Int32.minValue.toInt = -0x80000000 := rfl
  have bound := delta.le_toInt
  have bound' := delta.toInt_lt
  have apart : delta.toInt ≠ 0 := fun zero => moves (Int32.toInt_inj.mp zero)
  have apart' : delta.toInt ≠ -0x80000000 := fun same =>
    negatable (Int32.toInt_inj.mp (same.trans least.symm))
  have opposite : (-delta).toInt = -delta.toInt := by
    rw [Int32.toInt_neg]
    exact Int.bmod_eq_of_le (by omega) (by omega)
  have zero : (0 : Int32).toInt = 0 := rfl
  simp only [Int32.le_iff_toInt_le, opposite, zero, ← decide_not]
  exact decide_eq_decide.mpr (by omega)

theorem cycle_back (forwards : Bool) (p : OutOfRangePlacement) :
    cycleOutOfRange (!forwards) (cycleOutOfRange forwards p) = p := by
  cases forwards <;> cases p <;> rfl

/-- The opposite step takes back a step of a row without a number. -/
theorem adjust?_back (choice : f.scale? = none) (moves : delta ≠ 0)
    (negatable : delta ≠ Int32.minValue) (moved : f.adjust? delta s = some t) :
    f.adjust? (-delta) t = some s := by
  cases f <;> try cases choice
  case breakLines =>
    have back (b : LineBreaks) : flipBreaks (flipBreaks b) = b := by cases b <;> rfl
    cases moved
    simp only [adjust?, back]
  case placeShifted =>
    have back (p : ShiftedPlacement) : flipShifted (flipShifted p) = p := by cases p <;> rfl
    cases moved
    simp only [adjust?, back]
  case placeOutOfRange =>
    cases moved
    simp only [adjust?, forwards_neg delta moves negatable, cycle_back]
  all_goals
    cases moved
    simp only [adjust?, Bool.not_not]

/-! ## Every step -/

/-- What a step does to the settings, whatever its size. Its row alone changes. A number becomes the
exact sum, clamped, and that whenever the step and the sum are words; where one of them is not,
there is no outcome. A row without a number always takes another value, and the opposite step brings
back the settings. -/
theorem adjust_exact_within_words (f : Field) (delta : Int32) (s : Settings) :
    (∀ t, f.adjust? delta s = some t → SameBut f s t) ∧
    (∀ c, f.scale? = some c → ∀ step, step = c.unit * delta.toInt →
      (f.adjust? delta s = none ↔ ¬ (IsWord step ∧ IsWord (f.number s + step))) ∧
      (∀ t, f.adjust? delta s = some t → (f.number t : Int) = c.clamp (f.number s + step))) ∧
    (f.scale? = none → ∃ t, f.adjust? delta s = some t ∧ f.value t ≠ f.value s ∧
      (delta ≠ 0 → delta ≠ Int32.minValue → f.adjust? (-delta) t = some s)) := by
  refine ⟨fun t moved => adjust?_sameBut f delta s moved, ?_, ?_⟩
  · rintro c row step rfl
    exact ⟨adjust?_eq_none f delta s row, fun t moved => adjust?_number f delta s row moved⟩
  · intro choice
    obtain ⟨t, moved, other⟩ := adjust?_moves f delta s choice
    exact ⟨t, moved, other, fun moves negatable =>
      adjust?_back f delta s choice moves negatable moved⟩

/-- The largest step upwards from two has no outcome, though the exact sum is clamped to ten. -/
theorem largest_step_overflows :
    resilience.scale? = some ⟨0, 10, 1⟩ ∧ resilience.number ({} : Settings) = 2 ∧
      (2147483647 : Int32).toInt = 2147483647 ∧
      resilience.adjust? 2147483647 {} = none ∧
      Scale.clamp ⟨0, 10, 1⟩ (2 + 1 * 2147483647) = 10 := by
  refine ⟨rfl, rfl, by decide, by decide, by decide⟩

end Field
end KeySheet.Settings
