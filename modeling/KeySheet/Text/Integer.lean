import KeySheet.Text.Ascii

/-! Decimal integers as texts. Reading accepts one sign and at least one digit, and refuses a value
outside the stated range. -/
namespace KeySheet.Text

def digitValue (c : Char) : Nat := c.toNat - 48

/-- The value of a run of digits; `none` when it is empty or holds anything else. -/
def readDigits (cs : List Char) : Option Nat :=
  if !cs.isEmpty && cs.all isAsciiDigit then
    some (cs.foldl (fun n c => 10 * n + digitValue c) 0)
  else none

/-- The value of one digit in a base of at most sixteen; the letters `a` to `f`, of either case,
follow the nine. -/
def digitIn? (base : Nat) (c : Char) : Option Nat :=
  let n :=
    if '0' ≤ c && c ≤ '9' then c.toNat - 48
    else if 'a' ≤ c && c ≤ 'f' then c.toNat - 87
    else if 'A' ≤ c && c ≤ 'F' then c.toNat - 55
    else base
  if n < base then some n else none

/-- The value of a run of digits in a base; zero when it is empty. -/
def readIn? (base : Nat) (cs : List Char) : Option Nat :=
  cs.foldlM (fun n c => (digitIn? base c).map (base * n + ·)) 0

/-- A signed integer of any size; `+` and `-` are both allowed in front. -/
def readInteger : List Char → Option Int
  | '+' :: ds => (readDigits ds).map Int.ofNat
  | '-' :: ds => (readDigits ds).map (fun n => -Int.ofNat n)
  | ds => (readDigits ds).map Int.ofNat

/-- A signed integer within `[lo, hi]`. -/
def readSigned (lo hi : Int) (cs : List Char) : Option Int :=
  (readInteger cs).filter (fun n => lo ≤ n && n ≤ hi)

/-- The digits of a number, most significant first. -/
def digits (n : Nat) : List Char := Nat.toDigits 10 n

def showNat (n : Nat) : String := String.ofList (digits n)

def showInt : Int → String
  | .ofNat n => showNat n
  | .negSucc n => "-" ++ showNat (n + 1)

/-- One hexadecimal digit, lower case. -/
def hexDigit (n : Nat) : Char :=
  if n < 10 then Char.ofNat (48 + n) else Char.ofNat (87 + n)

/-- A byte as two lower-case hexadecimal digits. -/
def hexByte (b : UInt8) : List Char := [hexDigit (b.toNat / 16), hexDigit (b.toNat % 16)]

theorem readSigned_mem {lo hi n : Int} {cs : List Char} (h : readSigned lo hi cs = some n) :
    lo ≤ n ∧ n ≤ hi := by
  simpa using (Option.filter_eq_some_iff.mp h).2

end KeySheet.Text
