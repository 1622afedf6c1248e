import KeySheet.Files.Path
import KeySheet.Text.Integer

/-! A file system as a value: directories and files by their components from the root, and the
directory that relative paths start from. A path is walked one component at a time, and the first
step that cannot be taken is the failure. -/
namespace KeySheet.Files

abbrev Bytes := List UInt8

/-- Why a file cannot be read or written. -/
inductive Failure where
  | notFound
  | notDirectory
  | isDirectory
  | nameTooLong
  /-- A path with a NUL character, which no file can have. -/
  | nulInName
  /-- Any other failure, by its text. -/
  | other (text : String)
  deriving DecidableEq, Repr

def Failure.message : Failure → String
  | .notFound => "No such file or directory (os error 2)"
  | .notDirectory => "Not a directory (os error 20)"
  | .isDirectory => "Is a directory (os error 21)"
  | .nameTooLong => "File name too long (os error 36)"
  | .nulInName => "file name contained an unexpected NUL byte"
  | .other text => text

inductive Node where
  | directory
  | file (content : Bytes)
  deriving DecidableEq, Repr

abbrev Location := List (List Char)

structure Tree where
  /-- All but the root, which is always there. -/
  nodes : List (Location × Node)
  workingDir : Location
  deriving Repr

namespace Tree

def empty : Tree := ⟨[], []⟩

def node? (t : Tree) (at_ : Location) : Option Node :=
  if at_.isEmpty then some .directory else (t.nodes.find? (fun n => n.1 == at_)).map (·.2)

/-- Puts a node at a place, over what was there. -/
def put (t : Tree) (at_ : Location) (node : Node) : Tree :=
  { t with nodes := t.nodes.filter (fun n => n.1 != at_) ++ [(at_, node)] }

/-- The longest name and the longest path, in bytes. -/
def maxName : Nat := 255

def maxPath : Nat := 4095

/-- Walks from a place along pieces of a path. -/
def walk (t : Tree) (at_ : Location) : List (List Char) → Except Failure Location
  | [] => .ok at_
  | piece :: rest =>
      match t.node? at_ with
      | none => .error .notFound
      | some (.file _) => .error .notDirectory
      | some .directory =>
          if piece.isEmpty || piece == ['.'] then t.walk at_ rest
          else if piece == ['.', '.'] then t.walk at_.dropLast rest
          else if maxName < (String.ofList piece).utf8ByteSize then .error .nameTooLong
          else if (t.node? (at_ ++ [piece])).isSome then t.walk (at_ ++ [piece]) rest
          else .error .notFound

/-- Where a path starts, and the pieces to walk; refuses what no call accepts. -/
def start (t : Tree) (path : List Char) : Except Failure (Location × List (List Char)) :=
  if path.contains (Char.ofNat 0) then .error .nulInName
  else if path.isEmpty then .error .notFound
  else if maxPath < (String.ofList path).utf8ByteSize then .error .nameTooLong
  else .ok (if isRooted path then [] else t.workingDir, segments path)

/-- The place a path leads to. -/
def resolve (t : Tree) (path : List Char) : Except Failure Location := do
  let (at_, pieces) ← t.start path
  t.walk at_ pieces

def isDirectory (t : Tree) (path : List Char) : Bool :=
  match t.resolve path with
  | .ok at_ => t.node? at_ == some .directory
  | .error _ => false

/-- The content of a file. -/
def read (t : Tree) (path : List Char) : Except Failure Bytes := do
  let at_ ← t.resolve path
  match t.node? at_ with
  | some (.file content) => return content
  | some .directory => throw .isDirectory
  | none => throw .notFound

/-- Writes a file, over an old one if there is one; the directory must be there. A path with a slash
at its end is one of a directory. -/
def write (t : Tree) (path : List Char) (content : Bytes) : Except Failure Tree := do
  let (at_, pieces) ← t.start path
  let named := (pieces.reverse.dropWhile List.isEmpty).reverse
  let dir ← t.walk at_ named.dropLast
  match t.node? dir, named.getLast? with
  | none, _ => throw .notFound
  | some (.file _), _ => throw .notDirectory
  | some .directory, none => throw .isDirectory
  | some .directory, some name =>
      if named.length < pieces.length || name == ['.'] || name == ['.', '.'] then throw .isDirectory
      else if maxName < (String.ofList name).utf8ByteSize then throw .nameTooLong
      else if t.node? (dir ++ [name]) == some .directory then throw .isDirectory
      else return t.put (dir ++ [name]) (.file content)

/-- The names in a directory, in no particular order. -/
def names (t : Tree) (path : List Char) : Option (List (List Char)) :=
  match t.resolve path with
  | .error _ => none
  | .ok at_ =>
      match t.node? at_ with
      | some .directory =>
          some (t.nodes.filterMap (fun n =>
            if n.1.dropLast == at_ && !n.1.isEmpty then n.1.getLast? else none))
      | _ => none

/-- The order of names: by the values of their characters. -/
def nameLe : List Char → List Char → Bool
  | [], _ => true
  | _ :: _, [] => false
  | a :: as, b :: bs => if a = b then nameLe as bs else a.toNat < b.toNat

/-- What the upload browser shows of a directory: a way up when the path has a parent, then the
directories, then the MIDI files, each sorted by name. -/
def browse (t : Tree) (dir : List Char) : List (List Char) :=
  let up := if (parent? dir).isSome then [['.', '.']] else []
  let sorted := ((t.names dir).getD []).mergeSort nameLe
  let dirs := sorted.filter (fun n => t.isDirectory (join dir n))
  let files := sorted.filter (fun n => !t.isDirectory (join dir n) && isMidiPath (join dir n))
  up ++ (dirs ++ files).map (join dir)

end Tree

end KeySheet.Files
