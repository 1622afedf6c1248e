import KeySheet.Json.Basic

/-! Reading typed values out of JSON. Types are strict: a text is never taken for a number, nor a
double for an integer. A name that is looked for must not stand twice. -/
namespace KeySheet.Json

/-- The value under a name that stands at most once; the outer `none` is a duplicate. -/
def Fields.single (name : String) (fields : Fields) : Option (Option Json) :=
  match fields.filter (fun f => f.1 == name) with
  | [] => some none
  | [(_, v)] => some (some v)
  | _ => none

/-- The fields of a record: an object, or an array with the values in the order of `names`, of
which the last ones may be left out. -/
def recordFields (names : List String) : Json → Option Fields
  | .object fields => some fields
  | .array items => if items.length ≤ names.length then some (names.zip items) else none
  | _ => none

def asText : Json → Option String
  | .string s => some s
  | _ => none

def asBool : Json → Option Bool
  | .bool b => some b
  | _ => none

/-- An integer from zero to `limit`. -/
def asNatUpTo (limit : Nat) : Json → Option Nat
  | .number (.integer (.ofNat n)) => if n ≤ limit then some n else none
  | _ => none

/-- Any number; an integer becomes the nearest double. -/
def asReal : Json → Option Decimal.Binary64
  | .number (.integer n) => some (.ofInt n)
  | .number (.real x) => some x
  | _ => none

/-- The name of a choice: a text, or an object that holds nothing but the name over null. -/
def asChoice : Json → Option String
  | .string s => some s
  | .object [(name, .null)] => some name
  | _ => none

/-- A choice among fields that were set aside for a nested record; there an empty object may stand
for null. -/
def asNestedChoice : Json → Option String
  | .object [(name, .object [])] => some name
  | other => asChoice other

/-- A value that may be null or left out. -/
def optional {α : Type} (read : Json → Option α) : Option Json → Option (Option α)
  | none | some .null => some none
  | some j => (read j).map some

/-- A value that may be left out but not null. -/
def orElse {α : Type} (default : α) (read : Json → Option α) : Option Json → Option α
  | none => some default
  | some j => read j

/-- A value that must be there. -/
def required {α : Type} (read : Json → Option α) : Option Json → Option α
  | none => none
  | some j => read j

/-- Looks up a name and reads what stands there. -/
def field {α : Type} (fields : Fields) (name : String) (read : Option Json → Option α) :
    Option α :=
  (Fields.single name fields).bind read

end KeySheet.Json
