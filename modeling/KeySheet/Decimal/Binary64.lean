/-! Doubles as words of 64 bits. Every finite double is an integer times a power of two, and each
operation here rounds one exact quotient of integers to the nearest double, ties to even. -/
namespace KeySheet.Decimal

/-- A double, by its bits: sign, eleven bits of exponent, fifty-two of fraction. -/
structure Binary64 where
  bits : UInt64
  deriving DecidableEq, Repr

namespace Binary64

/-- All exponent bits set and no fraction. -/
def infinityBits : Nat := 0x7FF0000000000000

/-- The value of the bit of the sign. -/
def signBit : Nat := 0x8000000000000000

/-- The value of the lowest bit of the exponent. -/
def hiddenBit : Nat := 0x10000000000000

def zero : Binary64 := ⟨0⟩

/-- The bits below the sign. -/
def magnitude (x : Binary64) : Nat := x.bits.toNat % signBit

def isNegative (x : Binary64) : Bool := signBit ≤ x.bits.toNat

def isNaN (x : Binary64) : Bool := infinityBits < x.magnitude

def isInfinite (x : Binary64) : Bool := x.magnitude == infinityBits

def isZero (x : Binary64) : Bool := x.magnitude == 0

/-- Equality of numbers: the two zeros are equal, and no number is equal to a NaN. -/
def same (x y : Binary64) : Bool :=
  !x.isNaN && !y.isNaN && (x.bits == y.bits || (x.isZero && y.isZero))

def negate (x : Binary64) : Binary64 :=
  ⟨UInt64.ofNat (if x.isNegative then x.magnitude else x.magnitude + signBit)⟩

/-- The integer factor of a finite double; a normal one has its hidden bit. -/
def significand (x : Binary64) : Nat :=
  if x.magnitude < hiddenBit then x.magnitude else x.magnitude % hiddenBit + hiddenBit

/-- The exponent of the power of two, raised by 1074. -/
def scale (x : Binary64) : Nat := x.magnitude / hiddenBit - 1

/-- The numerator of the magnitude of a finite double over `2 ^ 1074`. -/
def numerator (x : Binary64) : Nat := x.significand * Nat.pow 2 x.scale

def denominator : Nat := Nat.pow 2 1074

/-- The quotient rounded to the nearest integer, a half to the even neighbour. -/
def roundDiv (num den : Nat) : Nat :=
  let q := num / den
  let r := num % den
  if 2 * r < den then q
  else if den < 2 * r then q + 1
  else if q % 2 = 0 then q else q + 1

/-- The double nearest to `num / den`; infinity when the quotient is too large. -/
def ofRatio (num den : Nat) : Binary64 :=
  if num = 0 then zero
  else
    let guess : Int := (Nat.log2 num : Int) - (Nat.log2 den : Int) - 53
    let low : Int := max guess (-1074)
    let part (q : Int) : Nat × Nat :=
      if 0 ≤ q then (num, den * Nat.pow 2 q.toNat) else (num * Nat.pow 2 (-q).toNat, den)
    let q := if 2 * hiddenBit ≤ (part low).1 / (part low).2 then low + 1 else low
    let m := roundDiv (part q).1 (part q).2
    ⟨UInt64.ofNat (min ((q + 1074).toNat * hiddenBit + m) infinityBits)⟩

def ofNat (n : Nat) : Binary64 := ofRatio n 1

def ofInt : Int → Binary64
  | .ofNat n => ofNat n
  | .negSucc n => (ofNat (n + 1)).negate

/-- The product of two doubles without sign. -/
def times (x y : Binary64) : Binary64 :=
  ofRatio (x.numerator * y.numerator) (denominator * denominator)

/-- The quotient of two doubles without sign. -/
def dividedBy (x y : Binary64) : Binary64 := ofRatio x.numerator y.numerator

/-- The double nearest to a power of ten. -/
def powerOfTen (n : Nat) : Binary64 := ofNat (Nat.pow 10 n)

theorem same_symm (x y : Binary64) : same x y = same y x := by
  unfold same
  rw [Bool.and_comm (!x.isNaN), Bool.and_comm x.isZero, Bool.beq_comm]

theorem same_self {x : Binary64} (h : x.isNaN = false) : same x x = true := by
  simp [same, h]

end Binary64

end KeySheet.Decimal
