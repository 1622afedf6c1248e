import KeySheet.Json.Basic
import KeySheet.Decimal.Notation

/-! JSON texts: the compact form that is sent, and the indented form that is printed. -/
namespace KeySheet.Json

/-- Doubles have a point or an exponent; places are written out from `10 ^ -5` up to `10 ^ 16`. -/
def numberStyle : Decimal.Notation := ⟨fun e => -5 ≤ e && e < 16, true⟩

def Number.render : Number → List Char
  | .integer n => (Text.showInt n).toList
  | .real x => (numberStyle.show x).toList

/-- Only the quote, the backslash and control characters are escaped. -/
def escapeChar (c : Char) : List Char :=
  if c = '"' then ['\\', '"']
  else if c = '\\' then ['\\', '\\']
  else if 0x20 ≤ c.toNat then [c]
  else if c.toNat = 8 then ['\\', 'b']
  else if c = '\t' then ['\\', 't']
  else if c = '\n' then ['\\', 'n']
  else if c.toNat = 12 then ['\\', 'f']
  else if c = '\r' then ['\\', 'r']
  else '\\' :: 'u' :: '0' :: '0' :: Text.hexByte (UInt8.ofNat c.toNat)

def quote (s : String) : List Char := '"' :: (s.toList.flatMap escapeChar ++ ['"'])

mutual

def render : Json → List Char
  | .null => "null".toList
  | .bool true => "true".toList
  | .bool false => "false".toList
  | .number n => n.render
  | .string s => quote s
  | .array [] => ['[', ']']
  | .array (j :: rest) => '[' :: (render j ++ renderItems rest ++ [']'])
  | .object [] => ['\x7b', '\x7d']
  | .object ((k, v) :: rest) =>
      '\x7b' :: (quote k ++ ':' :: render v ++ renderFields rest ++ ['\x7d'])
  | .unreadable => "null".toList

/-- Items behind the first, each with the comma in front. -/
def renderItems : List Json → List Char
  | [] => []
  | j :: rest => ',' :: (render j ++ renderItems rest)

def renderFields : Fields → List Char
  | [] => []
  | (k, v) :: rest => ',' :: (quote k ++ ':' :: render v ++ renderFields rest)

end

/-- The compact text: no white space. -/
def compact (j : Json) : String := String.ofList j.render

def newline (depth : Nat) : List Char := '\n' :: List.replicate (2 * depth) ' '

mutual

/-- The indented text at a depth of nesting; an empty array or object stays on its line. -/
def indent (depth : Nat) : Json → List Char
  | .array (j :: rest) =>
      '[' :: (newline (depth + 1) ++ indent (depth + 1) j ++ indentItems (depth + 1) rest ++
        newline depth ++ [']'])
  | .object ((k, v) :: rest) =>
      '\x7b' :: (newline (depth + 1) ++ quote k ++ ':' :: ' ' :: indent (depth + 1) v ++
        indentFields (depth + 1) rest ++ newline depth ++ ['\x7d'])
  | other => other.render

def indentItems (depth : Nat) : List Json → List Char
  | [] => []
  | j :: rest => ',' :: (newline depth ++ indent depth j ++ indentItems depth rest)

def indentFields (depth : Nat) : Fields → List Char
  | [] => []
  | (k, v) :: rest =>
      ',' :: (newline depth ++ quote k ++ ':' :: ' ' :: indent depth v ++ indentFields depth rest)

end

/-- One item a line, two spaces for each level. -/
def pretty (j : Json) : String := String.ofList (indent 0 j)

end KeySheet.Json
