import KeySheet.Json.Basic
import KeySheet.Text.Ascii
import KeySheet.Text.Integer

/-! Reading JSON texts. The grammar is strict: one value with white space around it, no trailing
comma, no raw control character. Numbers keep at most the digits that fit into 64 bits, then are
scaled once by a power of ten, as the converter's own numbers are read. -/
namespace KeySheet.Json

def isSpace (c : Char) : Bool := c == ' ' || c == '\n' || c == '\t' || c == '\r'

def skipSpace (cs : List Char) : List Char := cs.dropWhile isSpace

/-- One character of a text, or one sixteen-bit unit written as an escape. -/
inductive Piece where
  | char (c : Char)
  | unit (n : Nat)

def isLead (n : Nat) : Bool := 0xD800 ≤ n && n < 0xDC00

def isTrail (n : Nat) : Bool := 0xDC00 ≤ n && n < 0xE000

/-- Joins surrogate pairs; half a pair has no character. -/
def joinUnits : List Piece → Option (List Char)
  | [] => some []
  | .char c :: rest => (joinUnits rest).map (c :: ·)
  | .unit h :: .unit l :: rest =>
      if isLead h && isTrail l then
        (joinUnits rest).map (Char.ofNat (0x10000 + (h - 0xD800) * 0x400 + (l - 0xDC00)) :: ·)
      else if isLead h || isTrail h then none
      else (joinUnits (.unit l :: rest)).map (Char.ofNat h :: ·)
  | .unit n :: rest =>
      if isLead n || isTrail n then none else (joinUnits rest).map (Char.ofNat n :: ·)

/-- A unit of sixteen bits in four digits. -/
def hexUnit (a b c d : Char) : Option Nat := Text.readIn? 16 [a, b, c, d]

/-- The character behind a backslash, other than `u`. -/
def escapedChar : Char → Option Char
  | '"' => some '"'
  | '\\' => some '\\'
  | '/' => some '/'
  | 'b' => some (Char.ofNat 8)
  | 'f' => some (Char.ofNat 12)
  | 'n' => some '\n'
  | 'r' => some '\r'
  | 't' => some '\t'
  | _ => none

/-- The pieces up to the closing quote, last first, and what follows it. -/
def readPieces (acc : List Piece) : List Char → Option (List Piece × List Char)
  | [] => none
  | '"' :: rest => some (acc, rest)
  | '\\' :: 'u' :: a :: b :: c :: d :: rest =>
      match hexUnit a b c d with
      | some n => readPieces (.unit n :: acc) rest
      | none => none
  | '\\' :: e :: rest =>
      match escapedChar e with
      | some c => readPieces (.char c :: acc) rest
      | none => none
  | c :: rest => if c.toNat < 0x20 || c = '\\' then none else readPieces (.char c :: acc) rest

/-- A text behind its opening quote; `none` inside when it has no value. -/
def readText (cs : List Char) : Option (Option String × List Char) :=
  (readPieces [] cs).map (fun r => ((joinUnits r.1.reverse).map String.ofList, r.2))

/-- The largest number of 64 bits. -/
def maxWord : Nat := 0xFFFFFFFFFFFFFFFF

/-- Digits gathered so far and the number of places they are scaled by. -/
structure Gathered where
  significand : Nat
  exponent : Int

/-- Takes a digit while the significand fits into 64 bits. From the first digit that does not fit
all digits are dropped; each dropped one before the point counts as a place. -/
def gatherWhole (n : Nat) : List Char → Gathered × List Char
  | [] => (⟨n, 0⟩, [])
  | c :: rest =>
      if Text.isAsciiDigit c then
        if n * 10 + Text.digitValue c ≤ maxWord then gatherWhole (n * 10 + Text.digitValue c) rest
        else
          let more := (c :: rest).takeWhile Text.isAsciiDigit
          (⟨n, more.length⟩, (c :: rest).dropWhile Text.isAsciiDigit)
      else (⟨n, 0⟩, c :: rest)

/-- The digits behind a point; each one taken counts as a place the other way. -/
def gatherFraction (g : Gathered) : List Char → Gathered × List Char
  | [] => (g, [])
  | c :: rest =>
      if Text.isAsciiDigit c then
        if g.significand * 10 + Text.digitValue c ≤ maxWord then
          gatherFraction ⟨g.significand * 10 + Text.digitValue c, g.exponent - 1⟩ rest
        else (g, rest.dropWhile Text.isAsciiDigit)
      else (g, c :: rest)

/-- Scales a double by a power of ten: one product or quotient with the nearest double of the
power; below `10 ^ -308` first by that power, as often as needed. `none` when the result is too
large. -/
def scaleTen (fuel : Nat) (x : Decimal.Binary64) (e : Int) : Option Decimal.Binary64 :=
  if 308 < e then if x.isZero then some x else none
  else if 0 ≤ e then
    let y := x.times (.powerOfTen e.toNat)
    if y.isInfinite then none else some y
  else if -308 ≤ e then some (x.dividedBy (.powerOfTen (-e).toNat))
  else if x.isZero then some x
  else match fuel with
    | 0 => some .zero
    | fuel + 1 => scaleTen fuel (x.dividedBy (.powerOfTen 308)) (e + 308)

def maxExponent : Nat := 2147483647

/-- Exponents are kept within 32 bits. -/
def clampExponent (e : Int) : Int := max (-2147483648) (min e maxExponent)

/-- The double of gathered digits and an exponent as written. An exponent beyond 32 bits is too
large, or makes the number zero. -/
def realOf (g : Gathered) (negative : Bool) (written : Nat) : Option Decimal.Binary64 :=
  if maxExponent < written then
    if g.significand ≠ 0 ∧ ¬ negative then none else some .zero
  else
    let e := clampExponent (if negative then g.exponent - written else g.exponent + written)
    scaleTen 40 (.ofNat g.significand) e

def signed (minus : Bool) (x : Decimal.Binary64) : Decimal.Binary64 :=
  if minus then x.negate else x

/-- An unsigned integer, a negative one of 63 bits, or else a double; `-0` is a double. -/
def integerOrReal (minus : Bool) (n : Nat) : Number :=
  if !minus then .integer n
  else if n = 0 || Decimal.Binary64.signBit < n then .real (Decimal.Binary64.ofNat n).negate
  else .integer (-n)

def numberOr (x : Option Decimal.Binary64) (minus : Bool) : Json :=
  match x with
  | none => .unreadable
  | some x => .number (.real (signed minus x))

/-- The exponent behind its letter, if digits follow. -/
def readExponent (minus : Bool) (g : Gathered) (cs : List Char) : Option (Json × List Char) :=
  let (negative, ds) := match cs with
    | '+' :: rest => (false, rest)
    | '-' :: rest => (true, rest)
    | rest => (false, rest)
  match Text.readDigits (ds.takeWhile Text.isAsciiDigit) with
  | none => none
  | some n => some (numberOr (realOf g negative n) minus, ds.dropWhile Text.isAsciiDigit)

/-- What may follow the digits of a number: an exponent. -/
def finishReal (minus : Bool) (g : Gathered) : List Char → Option (Json × List Char)
  | 'e' :: rest | 'E' :: rest => readExponent minus g rest
  | rest => some (numberOr (realOf g false 0) minus, rest)

/-- A number behind its sign. A leading zero stands alone. -/
def readNumber (minus : Bool) (cs : List Char) : Option (Json × List Char) := do
  let (g, rest) ← match cs with
    | '0' :: rest =>
        if (rest.head?.map Text.isAsciiDigit).getD false then none else some (⟨0, 0⟩, rest)
    | c :: rest => if Text.isAsciiDigit c then some (gatherWhole 0 (c :: rest)) else none
    | [] => none
  match rest with
  | '.' :: ds =>
      if (ds.head?.map Text.isAsciiDigit).getD false then
        let (g, rest) := gatherFraction g ds
        finishReal minus g rest
      else none
  | 'e' :: _ | 'E' :: _ => finishReal minus g rest
  | _ =>
      if g.exponent = 0 then some (.number (integerOrReal minus g.significand), rest)
      else finishReal minus g rest

mutual

/-- A value without white space in front. The fuel bounds the nesting and the number of items. -/
def readValue (fuel : Nat) (cs : List Char) : Option (Json × List Char) :=
  match fuel with
  | 0 => none
  | fuel + 1 =>
    match cs with
    | 'n' :: 'u' :: 'l' :: 'l' :: rest => some (.null, rest)
    | 't' :: 'r' :: 'u' :: 'e' :: rest => some (.bool true, rest)
    | 'f' :: 'a' :: 'l' :: 's' :: 'e' :: rest => some (.bool false, rest)
    | '"' :: rest =>
        match readText rest with
        | some (some s, rest) => some (.string s, rest)
        | some (none, rest) => some (.unreadable, rest)
        | none => none
    | '-' :: rest => readNumber true rest
    | '[' :: rest =>
        match skipSpace rest with
        | ']' :: rest => some (.array [], rest)
        | rest => (readItems fuel [] rest).map (fun r => (.array r.1, r.2))
    | '\x7b' :: rest =>
        match skipSpace rest with
        | '\x7d' :: rest => some (.object [], rest)
        | rest => (readFields fuel [] rest).map (fun r =>
            (match r.1 with
              | some fields => .object fields
              | none => .unreadable, r.2))
    | rest => readNumber false rest

/-- The items of an array that has one, behind `acc` in reverse. -/
def readItems (fuel : Nat) (acc : List Json) (cs : List Char) : Option (List Json × List Char) :=
  match fuel with
  | 0 => none
  | fuel + 1 =>
    match readValue fuel cs with
    | none => none
    | some (j, rest) =>
      match skipSpace rest with
      | ',' :: rest => readItems fuel (j :: acc) (skipSpace rest)
      | ']' :: rest => some ((j :: acc).reverse, rest)
      | _ => none

/-- The fields of an object that has one, behind `acc` in reverse; `none` inside when a name has
no value. -/
def readFields (fuel : Nat) (acc : Fields) (cs : List Char) :
    Option (Option Fields × List Char) :=
  match fuel with
  | 0 => none
  | fuel + 1 =>
    match cs with
    | '"' :: rest =>
      match readText rest with
      | none => none
      | some (name, rest) =>
        match skipSpace rest with
        | ':' :: rest =>
          match readValue fuel (skipSpace rest) with
          | none => none
          | some (j, rest) =>
            let add (fields : Option Fields) : Option Fields :=
              if name.isNone then none else fields
            match skipSpace rest with
            | ',' :: rest =>
                (readFields fuel ((name.getD "", j) :: acc) (skipSpace rest)).map (fun r =>
                  (add r.1, r.2))
            | '\x7d' :: rest => some (add (some ((name.getD "", j) :: acc).reverse), rest)
            | _ => none
        | _ => none
    | _ => none

end

/-- The value of a text, in which parts may have no value. -/
def parse (text : String) : Option Json :=
  let cs := text.toList
  match readValue (2 * cs.length + 2) (skipSpace cs) with
  | some (j, rest) => if (skipSpace rest).isEmpty then some j else none
  | none => none

/-- Values may stand in at most this many arrays and objects. -/
def maxDepth : Nat := 127

/-- The value of a text, all of it readable and not nested too deep. -/
def read (text : String) : Option Json :=
  (parse text).filter (fun j => j.isReadable && j.depth ≤ maxDepth)

end KeySheet.Json
