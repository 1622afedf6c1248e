import KeySheet.Decimal.Binary64

/-! JSON values, with their fields in the order of the text. A duplicate name is kept: whether it
is an error is decided by what is read from the object. -/
namespace KeySheet

inductive Json.Number where
  /-- Within the range of 64 bits, signed or unsigned. -/
  | integer (n : Int)
  | real (x : Decimal.Binary64)
  deriving DecidableEq, Repr

inductive Json where
  | null
  | bool (b : Bool)
  | number (n : Json.Number)
  | string (s : String)
  | array (items : List Json)
  | object (fields : List (String × Json))
  /-- Well formed but without a value: a number too large, or a text with half of a surrogate
  pair. It may only stand where its value is not asked for. -/
  | unreadable
  deriving Repr

namespace Json

abbrev Fields := List (String × Json)

def ofNat (n : Nat) : Json := .number (.integer n)

def ofReal (x : Decimal.Binary64) : Json := .number (.real x)

def ofText : Option String → Json
  | none => .null
  | some s => .string s

/-- Puts a value under a name into fields sorted by name; it replaces a value already there. -/
def Fields.insert (name : String) (value : Json) : Fields → Fields
  | [] => [(name, value)]
  | (k, v) :: rest =>
      if name = k then (k, value) :: rest
      else if name < k then (name, value) :: (k, v) :: rest
      else (k, v) :: insert name value rest

/-- Fields sorted by name, each name once with its last value. -/
def Fields.sort (fields : Fields) : Fields :=
  fields.foldl (fun acc f => acc.insert f.1 f.2) []

/-- The value under a name. -/
def Fields.get? (name : String) (fields : Fields) : Option Json :=
  (fields.find? (fun f => f.1 == name)).map (·.2)

mutual

/-- Every object with its fields sorted, each name once with its last value. -/
def canonical : Json → Json
  | .array items => .array (canonicalItems items)
  | .object fields => .object (canonicalFields fields).sort
  | other => other

def canonicalItems : List Json → List Json
  | [] => []
  | j :: rest => canonical j :: canonicalItems rest

def canonicalFields : Fields → Fields
  | [] => []
  | (k, v) :: rest => (k, canonical v) :: canonicalFields rest

/-- How many arrays and objects stand around the deepest value. -/
def depth : Json → Nat
  | .array items => depthItems items + 1
  | .object fields => depthFields fields + 1
  | _ => 0

def depthItems : List Json → Nat
  | [] => 0
  | j :: rest => max (depth j) (depthItems rest)

def depthFields : Fields → Nat
  | [] => 0
  | (_, v) :: rest => max (depth v) (depthFields rest)

/-- Every part has a value. -/
def isReadable : Json → Bool
  | .array items => readableItems items
  | .object fields => readableFields fields
  | .unreadable => false
  | _ => true

def readableItems : List Json → Bool
  | [] => true
  | j :: rest => isReadable j && readableItems rest

def readableFields : Fields → Bool
  | [] => true
  | (_, v) :: rest => isReadable v && readableFields rest

end

/-- Numbers are equal by their values within a kind; an integer is never equal to a real. -/
def Number.same : Number → Number → Bool
  | .integer a, .integer b => a == b
  | .real a, .real b => a.same b
  | _, _ => false

mutual

/-- Equality of values, with fields in the same order. -/
def same : Json → Json → Bool
  | .null, .null => true
  | .bool a, .bool b => a == b
  | .number a, .number b => a.same b
  | .string a, .string b => a == b
  | .array a, .array b => sameItems a b
  | .object a, .object b => sameFields a b
  | _, _ => false

def sameItems : List Json → List Json → Bool
  | [], [] => true
  | a :: as, b :: bs => same a b && sameItems as bs
  | _, _ => false

def sameFields : Fields → Fields → Bool
  | [], [] => true
  | (k, a) :: as, (l, b) :: bs => k == l && same a b && sameFields as bs
  | _, _ => false

end

end Json

end KeySheet
