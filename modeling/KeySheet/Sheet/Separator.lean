import KeySheet.Sheet.Duration

/-! Separators of a sheet line. Chords are parted by eight literals whose shape tells the gap to
the next chord; a line is read from the left and the first rule that matches wins. -/
namespace KeySheet.Sheet

/-- What a rule asks of the surroundings of its literal. -/
inductive Guard where
  | anywhere
  /-- The literal ends the line or a space follows. -/
  | beforeSpaceOrEnd
  /-- The character in front is not a space. -/
  | notAfterSpace
  deriving DecidableEq, Repr

structure Rule where
  literal : List Char
  duration : Duration
  guard : Guard
  deriving DecidableEq, Repr

/-- Tried in this order, so a longer literal stands before every literal it begins with. -/
def rules : List Rule := [
  ⟨['.', '.', '.', '.', '.', '.', ' '], .quadruple, .anywhere⟩,
  ⟨['.', '.', '.', '.', ' '], .whole, .anywhere⟩,
  ⟨['.', '.', '.', ' '], .whole, .anywhere⟩,
  ⟨['.', '.', '.'], .whole, .beforeSpaceOrEnd⟩,
  ⟨[' ', '-', ' '], .quarter, .anywhere⟩,
  ⟨[',', ' '], .half, .anywhere⟩,
  ⟨['-'], .sixteenth, .notAfterSpace⟩,
  ⟨[' '], .eighth, .anywhere⟩]

/-- The rule applies to `rest`, where `before` is the character in front of it. -/
def Rule.applies (r : Rule) (before : Option Char) (rest : List Char) : Bool :=
  match Text.stripHead r.literal rest with
  | none => false
  | some after =>
      match r.guard with
      | .anywhere => true
      | .beforeSpaceOrEnd => after.head? == none || after.head? == some ' '
      | .notAfterSpace => before != some ' '

def ruleFor (before : Option Char) (rest : List Char) : Option Rule :=
  rules.find? (fun r => r.applies before rest)

/-- A literal found in a line, by the offset of its first character. -/
structure Separator where
  start : Nat
  rule : Rule
  deriving DecidableEq, Repr

namespace Separator

def stop (s : Separator) : Nat := s.start + s.rule.literal.length

def duration (s : Separator) : Duration := s.rule.duration

end Separator

/-- The separator that starts at `pos`, wherever a scan of the line would stop. -/
def separatorAt (line : List Char) (pos : Nat) : Option Separator :=
  let before := if pos = 0 then none else (line.drop (pos - 1)).head?
  (ruleFor before (line.drop pos)).map (fun r => ⟨pos, r⟩)

/-- Reads the rest of a line from offset `pos`. `owed` counts the characters that still belong to
the separator under way; `before` is the character in front. -/
def scanFrom (owed pos : Nat) (before : Option Char) : List Char → List Separator
  | [] => []
  | c :: cs =>
      match owed with
      | k + 1 => scanFrom k (pos + 1) (some c) cs
      | 0 =>
          match ruleFor before (c :: cs) with
          | some r => ⟨pos, r⟩ :: scanFrom (r.literal.length - 1) (pos + 1) (some c) cs
          | none => scanFrom 0 (pos + 1) (some c) cs

/-- The separators of a line from left to right. A character that starts none belongs to the
chord under way. -/
def separators (line : List Char) : List Separator := scanFrom 0 0 none line

/-- A character that a colon in front marks as out of range. -/
def isMarkable (c : Char) : Bool := Text.isAsciiAlphanumeric c || Text.isAsciiPunctuation c

/-- Whether a colon that stands here opens a mark. -/
def opensMark (c : Char) (cs : List Char) : Bool :=
  c == ':' && (match cs with
    | [] => false
    | n :: _ => isMarkable n)

def marksFrom (opened : Bool) : List Char → List Bool
  | [] => []
  | c :: cs => (opened || opensMark c cs) :: marksFrom (opensMark c cs) cs

/-- One flag a character: set on a colon directly before a markable character, and on that
character. -/
def outOfRangeMarks (line : List Char) : List Bool := marksFrom false line

theorem length_marksFrom (b : Bool) (line : List Char) :
    (marksFrom b line).length = line.length := by
  induction line generalizing b with
  | nil => rfl
  | cons c cs ih => simp [marksFrom, ih]

theorem length_outOfRangeMarks (line : List Char) : (outOfRangeMarks line).length = line.length :=
  length_marksFrom false line

/-- No rule has an empty literal, so every separator covers a character. -/
theorem literal_ne_nil : ∀ r ∈ rules, r.literal ≠ [] := by decide

theorem ruleFor_nil (before : Option Char) : ruleFor before [] = none := by
  cases before <;> rfl

end KeySheet.Sheet
