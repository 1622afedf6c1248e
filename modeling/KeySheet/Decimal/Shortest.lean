import KeySheet.Decimal.Binary64
import KeySheet.Text.Integer

/-! The fewest decimal digits that read back as a given double. A decimal reads back when it lies
in the interval of reals that round to the double; the two neighbours of the value are tried on
grids of one to seventeen digits, and the nearer of two hits is taken. -/
namespace KeySheet.Decimal

/-- The number `coefficient * 10 ^ exponent`. -/
structure Digits where
  coefficient : Nat
  exponent : Int
  deriving DecidableEq, Repr

/-- How many tens `n` must be multiplied by to reach `den`, counted on from `k`. -/
def placesBelow (den : Nat) : Nat → Nat → Nat → Nat
  | 0, k, _ => k
  | fuel + 1, k, n => if den ≤ n then k else placesBelow den fuel (k + 1) (n * 10)

/-- The largest `k` with `10 ^ k ≤ num / den`, for a quotient no smaller than any double. -/
def leadingPlace (num den : Nat) : Int :=
  if den ≤ num then ((Text.digits (num / den)).length : Int) - 1
  else -(placesBelow den 400 0 num : Int)

/-- `c * 10 ^ g` against `num / den`, by cross multiplication. -/
def compareGrid (c : Nat) (g : Int) (num den : Nat) : Ordering :=
  if 0 ≤ g then compare (c * Nat.pow 10 g.toNat * den) num
  else compare (c * den) (num * Nat.pow 10 (-g).toNat)

/-- The decimal lies between the two bounds over `den`; the bounds belong to the interval when
`closed`. -/
def readsBack (closed : Bool) (low high den c : Nat) (g : Int) : Bool :=
  match compareGrid c g low den, compareGrid c g high den with
  | .gt, .lt => true
  | .eq, _ | _, .eq => closed
  | _, _ => false

/-- The better of the two neighbours of `num / den` on the grid `10 ^ g`. -/
def hitOnGrid (closed : Bool) (low num high den : Nat) (g : Int) : Option Nat :=
  let unit : Nat × Nat := if 0 ≤ g then (1, Nat.pow 10 g.toNat) else (Nat.pow 10 (-g).toNat, 1)
  let floor := num * unit.1 / (den * unit.2)
  let below := readsBack closed low high den floor g
  let above := readsBack closed low high den (floor + 1) g
  if below && above then
    match compareGrid (2 * floor + 1) g (2 * num) den with
    | .gt => some floor
    | .lt => some (floor + 1)
    | .eq => some (if floor % 2 = 0 then floor else floor + 1)
  else if below then some floor
  else if above then some (floor + 1)
  else none

/-- Moves trailing zeros of the coefficient into the exponent. -/
def dropZeros : Nat → Digits → Digits
  | 0, d => d
  | fuel + 1, d =>
      if d.coefficient % 10 = 0 then dropZeros fuel ⟨d.coefficient / 10, d.exponent + 1⟩ else d

/-- The shortest digits of the magnitude of a finite double. -/
def shortest (x : Binary64) : Digits :=
  if x.isZero then ⟨0, 0⟩
  else
    let m := x.significand
    let unit := Nat.pow 2 x.scale
    let den := 4 * Binary64.denominator
    let num := 4 * m * unit
    let low := (if m = Binary64.hiddenBit ∧ x.scale ≠ 0 then 4 * m - 1 else 4 * m - 2) * unit
    let high := (4 * m + 2) * unit
    let k := leadingPlace num den
    let found := (List.range 17).findSome? (fun (n : Nat) =>
      let g : Int := k - n
      (hitOnGrid (m % 2 = 0) low num high den g).map (fun c => (⟨c, g⟩ : Digits)))
    match found with
    | some d => dropZeros 20 d
    | none => ⟨m, 0⟩

end KeySheet.Decimal
