import KeySheet.Text.Ascii
import KeySheet.Text.Parts

/-! Paths as texts. Components are parted by slashes; empty ones and single dots say nothing,
except for a dot at the very start. Joining and cutting keep the text as it was written. -/
namespace KeySheet.Files

/-- The pieces between slashes; one more than there are slashes. -/
def segments (path : List Char) : List (List Char) := Text.parts (· == '/') path

inductive Component where
  | root
  /-- A dot at the start. -/
  | here
  | up
  | normal (name : List Char)
  deriving DecidableEq, Repr

def isRooted (path : List Char) : Bool := path.head? == some '/'

/-- A piece that is a step: neither empty nor a dot. -/
def stepOf (piece : List Char) : Option Component :=
  match piece with
  | [] | ['.'] => none
  | ['.', '.'] => some .up
  | name => some (.normal name)

def components (path : List Char) : List Component :=
  let steps := (segments path).filterMap stepOf
  if isRooted path then .root :: steps
  else if (segments path).head? == some ['.'] then .here :: steps
  else steps

/-- The last component, when it is a name. -/
def fileName? (path : List Char) : Option (List Char) :=
  match (components path).getLast? with
  | some (.normal name) => some name
  | _ => none

/-- A name cut at its last dot: what stands before it and after it. A dot at the start of a name
without another one does not count. -/
def splitName (name : List Char) : List Char × Option (List Char) :=
  let after := (name.reverse.takeWhile (· != '.')).reverse
  let before := name.take (name.length - after.length - 1)
  if after.length < name.length && !before.isEmpty then (before, some after) else (name, none)

/-- The name of the file without its extension. -/
def stem? (path : List Char) : Option (List Char) := (fileName? path).map (fun n => (splitName n).1)

def extension? (path : List Char) : Option (List Char) :=
  (fileName? path).bind (fun n => (splitName n).2)

/-- A rooted name replaces the directory; else a slash is put between, where one is missing. -/
def join (dir name : List Char) : List Char :=
  if isRooted name then name
  else match dir.getLast? with
    | none => name
    | some '/' => dir ++ name
    | some _ => dir ++ '/' :: name

/-- Drops pieces that say nothing from the end; the pieces are in reverse. -/
def dropSilent (pieces : List (List Char)) : List (List Char) :=
  pieces.dropWhile (fun p => (stepOf p).isNone)

def glue (pieces : List (List Char)) : List Char := ['/'].intercalate pieces

/-- The path up to the last component, as it is written there. A root and the empty path have no
parent. -/
def parent? (path : List Char) : Option (List Char) :=
  let pieces := segments path
  let (head, body) :=
    if isRooted path then (['/'], pieces.drop 1)
    else if pieces.head? == some ['.'] then (['.'], [] :: pieces.drop 1)
    else ([], pieces)
  match dropSilent body.reverse with
  | [] => if head == ['.'] then some [] else none
  | _ :: rest => some (head ++ glue (dropSilent rest).reverse)

/-- The endings of names that are taken for MIDI files, in any ASCII case. -/
def isMidiPath (path : List Char) : Bool :=
  match extension? path with
  | none => false
  | some ext =>
      let low := Text.foldCase ext
      low == "mid".toList || low == "midi".toList

end KeySheet.Files
