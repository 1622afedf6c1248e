import KeySheet.Screen.ConvertPanel

/-! The panel of a sheet: every glyph in the colour of its duration, a legend of the colours, and
the transposition. -/
namespace KeySheet.Screen

/-- A glyph out of range is heavy and underlined. -/
def glyphRun (g : Sheet.Glyph) : Run :=
  let style := (Color.exact g.duration.color).style
  ⟨[g.char], if g.outOfRange then style.bold.underlined else style⟩

/-- A line of a sheet; content has one run for each character. -/
def sheetLine : Sheet.Line → Line
  | .metadata text => [⟨text, Color.yellow.style.bold⟩]
  | .comment text => [⟨text, Color.darkGray.style.italic⟩]
  | .blank => []
  | .content spans => spans.flatten.map glyphRun

def sheetLines (l : Sheet.Layout) : List Line := l.map sheetLine

/-- The durations of the legend, shortest first. -/
def legend : List Sheet.Duration :=
  [.sixtyFourth, .thirtySecond, .sixteenth, .eighth, .quarter, .half, .whole, .quadruple]

def legendLine : Line :=
  label "Legend: " :: legend.flatMap (fun d =>
    [run "■" (Color.exact d.color).style, run (d.label ++ " ") Color.gray.style])

/-- A number with its sign; zero counts as positive. -/
def signed (n : Int) : String := if n < 0 then Text.showInt n else "+" ++ Text.showInt n

/-- The mode, the shifts when they are wanted, and the name of the sheet. -/
def infoLine (v : Desk.Viewer) : Line :=
  let shifts :=
    if v.showTransposes && !v.transposes.isEmpty then
      [run ("  Shifts: " ++ ", ".intercalate (v.transposes.map signed)) Color.yellow.style]
    else []
  let name := (v.sheet.bind (·.fileName)).toList.map (fun n => label ("  " ++ n))
  [label "Transpose: ", run v.mode.label Color.cyan.style.bold] ++ shifts ++ name

def sheetTitle (v : Desk.Viewer) : String :=
  if v.isOpen && !v.title.isEmpty then " Sheet - " ++ v.title ++ " " else " Sheet "

/-- What a closed panel shows. -/
def invitation : List Line :=
  [[run "Open a history entry or upload a MIDI file to view its sheet."
      Color.darkGray.style.italic],
    [], legendLine]

/-- Below the two rows on top. -/
def sheetBody (a : Area) : Area := a.inner.below 2

namespace Canvas

def drawSheetBody (c : Canvas) (a : Area) (v : Desk.Viewer) : Canvas :=
  if v.loading then c.drawParagraph a [[run "Generating sheet..." Color.yellow.style]]
  else match v.error with
    | some text => c.drawParagraph a [[run ("Error: " ++ text) Color.red.style]]
    | none =>
        let seen := (v.layout.drop v.scroll).take a.height
        if Area.limit < v.scroll + a.height then c else c.drawParagraph a (sheetLines seen)

def drawSheetPanel (c : Canvas) (a : Area) (d : Desk) : Canvas :=
  let v := d.viewer
  let inner := a.inner
  let c := c.drawBorder a (sheetTitle v) (borderStyle (d.focus = .viewer))
  if v.isOpen then
    let c := c.drawParagraph (inner.row 0) [infoLine v]
    let c := c.drawParagraph (inner.row 1) [legendLine]
    c.drawSheetBody (sheetBody a) v
  else c.drawParagraph inner invitation

end Canvas

end KeySheet.Screen
