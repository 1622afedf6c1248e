import KeySheet.Backend.Failure
import KeySheet.Files.Path
import KeySheet.Settings.Basic
import KeySheet.Sheet.Layout

/-! The panel that shows a sheet. It knows the MIDI file whose sheet it waits for; a sheet of
another file is not shown. Its scroll is a word of sixteen bits, and lines beyond its reach cannot
be scrolled to. -/
namespace KeySheet.Desk

structure Viewer where
  isOpen : Bool := false
  /-- The converter's name of the file. -/
  midi : Option String := none
  title : String := ""
  /-- The last sheet that came, with its layout and the shifts its headers name. -/
  sheet : Option Sheet.Score := none
  layout : Sheet.Layout := []
  transposes : List Int := []
  mode : TransposeMode := .auto
  /-- A sheet was asked for and has not come. -/
  loading : Bool := false
  error : Option String := none
  scroll : Nat := 0
  /-- The rows that were last drawn. -/
  visibleRows : Nat := 0
  showTransposes : Bool := false
  deriving Repr

namespace Viewer

/-- The largest scroll. -/
def reach : Nat := 65535

/-- The scroll at which the last line stands in the last row. -/
def maxScroll (v : Viewer) : Nat := min v.layout.length reach - max v.visibleRows 1

/-- A page is what is seen, and a line at least. -/
def page (v : Viewer) : Nat := max v.visibleRows 1

/-- The viewer as it opens on a file: only the mode and the rows stay. -/
def openOn (v : Viewer) (midi title : String) : Viewer :=
  { isOpen := true
    midi := some midi
    title := title
    mode := v.mode
    visibleRows := v.visibleRows }

/-- A sheet has been asked for. -/
def await (v : Viewer) : Viewer := { v with loading := true, error := none }

/-- Takes a sheet, or the reason why there is none, if it is for the file shown. An old sheet stays
behind an error. -/
def receive (v : Viewer) (midi : String) (answer : Except Backend.Failure Sheet.Score) : Viewer :=
  if v.midi = some midi then
    match answer with
    | .ok score =>
        let next := { v with
          loading := false
          sheet := some score
          layout := Sheet.layout score.text.toList
          transposes := Sheet.transposes score.text.toList }
        { next with scroll := min v.scroll next.maxScroll }
    | .error e => { v with loading := false, error := some e.userMessage }
  else v

/-- Shows the shifts, or hides them. -/
def toggleTransposes (v : Viewer) : Viewer := { v with showTransposes := !v.showTransposes }

/-- Moves to a line, between the first line and the largest scroll. -/
def scrollTo (v : Viewer) (line : Int) : Viewer :=
  { v with scroll := (max 0 (min line (v.maxScroll : Int))).toNat }

/-- What the names of saved files begin with: the name of the MIDI file without its ending. -/
def stem (v : Viewer) : List Char :=
  match v.midi with
  | none => "sheet".toList
  | some name => (Files.stem? name.toList).getD name.toList

/-- The name to save the text under: the converter's own, of which only the last part counts. -/
def textName (v : Viewer) (score : Sheet.Score) : List Char :=
  (score.fileName.bind (fun name => Files.fileName? name.toList)).getD
    (v.stem ++ "_sheets.txt".toList)

/-- The name to export the page under. -/
def pageName (v : Viewer) : List Char := v.stem ++ "_sheets.html".toList

end Viewer

end KeySheet.Desk
