import KeySheet.Screen.Header

/-! The panels that open above the others: the message that must be dismissed, the one to pick a MIDI
file, and the one that edits the settings. -/
namespace KeySheet.Screen

/-! ## The message -/

/-- The lines of a message; the empty one has one line. -/
def messageLines (text : String) : List Line :=
  match Text.rows text.toList with
  | [] => [[]]
  | rows => rows.map (fun r => [⟨r, {}⟩])

namespace Canvas

def drawAlert (c : Canvas) (alert : Option Desk.Alert) : Canvas :=
  match alert with
  | none => c
  | some alert =>
      let a := c.area.centered 50 25
      let c := (c.clear a).drawBorder a (" " ++ alert.title ++ " ") Color.red.style
      let c := c.drawWrapped a.inner.aboveLast (messageLines alert.message) Color.white.style
      c.drawParagraph a.inner.lastRow [hints [("[Enter/Esc]", " OK")]] .center

end Canvas

/-! ## The files -/

/-- A path that is too long keeps its end, behind three dots. -/
def shortenPath (width : Nat) (path : List Char) : List Char :=
  if width < path.length then "...".toList ++ path.drop (path.length - (width - 3)) else path

/-- The name of an entry, or a question mark for a path without one. -/
def entryName (path : List Char) : List Char := (Files.fileName? path).getD ['?']

/-- The mark, the name and the colour of an entry. -/
def browserEntry (files : Files.Tree) (path : List Char) : String × List Char × Color :=
  if path = Desk.Browser.upEntry then ("[..]", "Parent Directory".toList, .blue)
  else if files.isDirectory path then ("[D]", entryName path, .blue)
  else ("[M]", entryName path, .magenta)

def browserLine (files : Files.Tree) (path : List Char) (selected : Bool) : Line :=
  let (mark, name, color) := browserEntry files path
  [label (mark ++ " "), ⟨name, if selected then color.style.reversed else color.style⟩]

/-- The rows on the screen, from the scroll on. -/
def browserLines (files : Files.Tree) (b : Desk.Browser) (rows : Nat) : List Line :=
  ((b.entries.drop b.scroll).take rows).zipIdx.map
    (fun (path, i) => browserLine files path (b.scroll + i == b.selected))

namespace Canvas

def drawBrowser (c : Canvas) (files : Files.Tree) (b : Desk.Browser) : Canvas :=
  if !b.isOpen then c
  else
    let a := c.area.centered 60 70
    let inner := a.inner
    let list := (inner.below 2).aboveLast
    let c := (c.clear a).drawBorder a " Upload MIDI " Color.cyan.style
    let c := c.drawParagraph (inner.row 0)
      [[⟨shortenPath (inner.width - 2) b.dir, Color.cyan.style⟩]]
    let c :=
      if b.entries.isEmpty then
        c.drawParagraph list [[run "No MIDI files here" Color.darkGray.style.italic]]
      else c
    let c := c.drawList list (browserLines files b list.height)
    c.drawParagraph inner.lastRow
      [hints [("[Up/Down]", " Navigate  "), ("[Enter]", " Open/Upload  "), ("[Esc]", " Cancel")]]

end Canvas

/-! ## The settings -/

/-- The longest label and two blanks. -/
def labelColumns : Nat :=
  (Settings.Field.all.map (fun f => f.label.utf8ByteSize)).foldl max 0 + 2

/-- The selected row stands out, and so does a value that is not saved. -/
def fieldStyle (selected changed : Bool) : Style :=
  if selected then Style.bold { fg := some .black, bg := some .cyan }
  else if changed then Color.yellow.style
  else Color.white.style

def fieldLine (saved draft : Settings) (f : Settings.Field) (selected : Bool) : Line :=
  [run (padTo labelColumns f.label) Color.gray.style,
    run (" " ++ f.value draft ++ " ") (fieldStyle selected (f.value draft != f.value saved))]

/-- All rows, but for those above when the selected one would be out of sight. -/
def fieldLines (saved : Settings) (dialog : Desk.SettingsDialog) (rows : Nat) : List Line :=
  (Settings.Field.all.zipIdx.map
    (fun (f, i) => fieldLine saved dialog.draft f (i == dialog.selected))).drop
      (dialog.selected + 1 - rows)

namespace Canvas

def drawSettings (c : Canvas) (saved : Settings) (dialog : Desk.SettingsDialog) : Canvas :=
  if !dialog.isOpen then c
  else
    let a := c.area.centered 50 70
    let list := a.inner.aboveLast
    let c := (c.clear a).drawBorder a " Sheet Settings " Color.cyan.style
    let c := c.drawList list (fieldLines saved dialog list.height)
    c.drawParagraph a.inner.lastRow
      [hints [("[Up/Down]", " Select  "), ("[Left/Right]", " Change  "), ("[r]", " Defaults  "),
        ("[Enter]", " Save  "), ("[Esc]", " Cancel")]]

end Canvas

end KeySheet.Screen
