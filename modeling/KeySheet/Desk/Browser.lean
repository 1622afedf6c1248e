import KeySheet.Files.Tree

/-! The panel to pick a MIDI file from a directory. -/
namespace KeySheet.Desk

structure Browser where
  isOpen : Bool := false
  dir : List Char
  /-- The way up, the directories and the MIDI files, as they were last listed. -/
  entries : List (List Char) := []
  selected : Nat := 0
  scroll : Nat := 0
  deriving Repr

namespace Browser

/-- The rows it scrolls by, whatever the height of the panel. -/
def pageRows : Nat := 10

/-- The entry that leads up. -/
def upEntry : List Char := ['.', '.']

/-- Lists the directory anew. -/
def refresh (b : Browser) (files : Files.Tree) : Browser :=
  let entries := files.browse b.dir
  { b with entries := entries, selected := if entries.length ≤ b.selected then 0 else b.selected }

/-- Goes to a directory, and to its first entry. -/
def enter (b : Browser) (files : Files.Tree) (dir : List Char) : Browser :=
  { b with dir := dir, selected := 0, scroll := 0 }.refresh files

def start (b : Browser) (files : Files.Tree) : Browser :=
  { b with isOpen := true }.enter files b.dir

def selectPrev (b : Browser) : Browser :=
  if b.isOpen && 0 < b.selected then
    { b with selected := b.selected - 1, scroll := min b.scroll (b.selected - 1) }
  else b

def selectNext (b : Browser) : Browser :=
  if b.isOpen && b.selected + 1 < b.entries.length then
    let selected := b.selected + 1
    { b with
      selected := selected
      scroll := if b.scroll + pageRows ≤ selected then selected + 1 - pageRows else b.scroll }
  else b

/-- Enters the selected directory, or closes with the selected file. -/
def choose (b : Browser) (files : Files.Tree) : Browser × Option (List Char) :=
  if b.isOpen then
    match b.entries[b.selected]? with
    | none => (b, none)
    | some entry =>
        if entry = upEntry then
          match Files.parent? b.dir with
          | some parent => (b.enter files parent, none)
          | none => (b, none)
        else if files.isDirectory entry then (b.enter files entry, none)
        else ({ b with isOpen := false }, some entry)
  else (b, none)

end Browser

end KeySheet.Desk
