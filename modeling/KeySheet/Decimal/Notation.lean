import KeySheet.Decimal.Shortest

/-! How doubles are written. A notation says which numbers are written with all their places, and
whether a whole number shows a point; the digits are the shortest ones. -/
namespace KeySheet.Decimal

structure Notation where
  /-- Written with all places, by the exponent of the first digit. -/
  positional : Int → Bool
  /-- A whole number ends in `.0`. -/
  keepsPoint : Bool

def zeros (n : Nat) : List Char := List.replicate n '0'

/-- The digits `ds`, of which the first stands for `10 ^ e`, with all places. -/
def Notation.places (style : Notation) (ds : List Char) (e : Int) : List Char :=
  if e < 0 then '0' :: '.' :: zeros ((-e).toNat - 1) ++ ds
  else
    let whole := e.toNat + 1
    if ds.length ≤ whole then
      ds ++ zeros (whole - ds.length) ++ (if style.keepsPoint then ['.', '0'] else [])
    else ds.take whole ++ '.' :: ds.drop whole

/-- One digit, the others behind a point, and the exponent with its sign. -/
def scientific (ds : List Char) (e : Int) : List Char :=
  let mantissa := match ds with
    | [] => []
    | [d] => [d]
    | d :: rest => d :: '.' :: rest
  mantissa ++ 'e' :: (if e < 0 then '-' else '+') :: Text.digits e.natAbs

/-- The text of a finite double. -/
def Notation.show (style : Notation) (x : Binary64) : String :=
  let d := shortest x
  let ds := Text.digits d.coefficient
  let e := d.exponent + ds.length - 1
  let body := if style.positional e then style.places ds e else scientific ds e
  String.ofList (if x.isNegative then '-' :: body else body)

/-- The text of a finite double with `n` places behind the point, for `n` above zero; a half goes
to the even neighbour. -/
def showFixed (n : Nat) (x : Binary64) : String :=
  let scaled := Text.digits (Binary64.roundDiv (x.numerator * Nat.pow 10 n) Binary64.denominator)
  let ds := zeros (n + 1 - scaled.length) ++ scaled
  let body := ds.take (ds.length - n) ++ '.' :: ds.drop (ds.length - n)
  String.ofList (if x.isNegative then '-' :: body else body)

/-- All places, and no point behind a whole number. -/
def plain : Notation := ⟨fun _ => true, false⟩

end KeySheet.Decimal
