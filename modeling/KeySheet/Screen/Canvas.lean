import KeySheet.Screen.Area
import KeySheet.Screen.Style
import KeySheet.Text.Rows

/-! The grid of cells that panels are drawn on. What is drawn later covers what was there, but a
colour that is not set stays. -/
namespace KeySheet.Screen

structure Cell where
  /-- One cluster; the cell behind a wide one is hidden by it. -/
  cluster : List Char := [' ']
  fg : Color := .reset
  bg : Color := .reset
  emphasis : Emphasis := {}
  deriving DecidableEq, Repr, Inhabited

def Cell.styled (c : Cell) (s : Style) : Cell :=
  { c with fg := s.fg.getD c.fg, bg := s.bg.getD c.bg, emphasis := c.emphasis.with s.emphasis }

structure Canvas where
  width : Nat
  height : Nat
  /-- Row after row. -/
  cells : Array Cell

namespace Canvas

def blank (width height : Nat) : Canvas := ⟨width, height, Array.replicate (width * height) {}⟩

def area (c : Canvas) : Area := ⟨0, 0, c.width, c.height⟩

/-- Changes one cell; outside of the grid there is none. -/
def modify (c : Canvas) (x y : Nat) (f : Cell → Cell) : Canvas :=
  if x < c.width && y < c.height then { c with cells := c.cells.modify (y * c.width + x) f } else c

def modifyRow (c : Canvas) (x y : Nat) (f : Cell → Cell) : Nat → Canvas
  | 0 => c
  | n + 1 => (c.modify x y f).modifyRow (x + 1) y f n

/-- Changes every cell of an area. -/
def modifyArea (c : Canvas) (a : Area) (f : Cell → Cell) : Canvas :=
  (List.range a.height).foldl (fun c i => c.modifyRow a.x (a.y + i) f a.width) c

def restyle (c : Canvas) (a : Area) (s : Style) : Canvas :=
  c.modifyArea a (fun cell => cell.styled s)

/-- Makes an area as if nothing had been drawn there. -/
def clear (c : Canvas) (a : Area) : Canvas := c.modifyArea a (fun _ => {})

def put (c : Canvas) (x y : Nat) (cluster : List Char) (s : Style) : Canvas :=
  c.modify x y (fun cell => { cell.styled s with cluster := cluster })

/-- Adds to a cluster that is there. -/
def append (c : Canvas) (x y : Nat) (cluster : List Char) (s : Style) : Canvas :=
  c.modify x y (fun cell => { cell.styled s with cluster := cell.cluster ++ cluster })

/-- The cells of a row, from left to right. -/
def row (c : Canvas) (y : Nat) : List Cell :=
  (c.cells.extract (y * c.width) ((y + 1) * c.width)).toList

/-- Puts glyphs side by side; marks on their own are not drawn. -/
def putGlyphs (c : Canvas) (x y : Nat) : List Glyph → Canvas
  | [] => c
  | g :: rest =>
      if g.width = 0 then c.putGlyphs x y rest
      else (c.put x y g.cluster g.style).putGlyphs (x + g.width) y rest

/-- Where the glyph of a run at column `x` goes that began at `first`: a mark on its own joins the
cell before it, and all that follows a mark at the start joins that. -/
def placeGlyph (c : Canvas) (isFirst : Bool) (first x y : Nat) (g : Glyph) : Canvas :=
  if isFirst then c.put x y g.cluster g.style
  else if x = first then c.append x y g.cluster g.style
  else if g.width = 0 then c.append (x - 1) y g.cluster g.style
  else c.put x y g.cluster g.style

/-- Draws one run from a column on, up to the column `stop`. Cells that a wide glyph hides are made
blank. -/
def drawGlyphs (c : Canvas) (isFirst : Bool) (first x stop y : Nat) : List Glyph → Canvas
  | [] => c
  | g :: rest =>
      let next := x + g.width
      if stop < next then c
      else
        let drawn := c.placeGlyph isFirst first x y g
        let hidden := drawn.modifyRow (x + 1) y (fun _ => {}) (next - (x + 1))
        hidden.drawGlyphs false first next stop y rest

/-- Draws a line in a row, each run behind the full width of the one before; a run without any
width is passed over. -/
def drawLine (c : Canvas) (x stop y : Nat) : Line → Canvas
  | [] => c
  | r :: rest =>
      let width := Text.width r.text
      if width = 0 then c.drawLine x stop y rest
      else if stop ≤ x then c
      else (c.drawGlyphs true x x stop y r.glyphs).drawLine (x + width) stop y rest

/-- The rows of a list, as many as there is room for. -/
def drawList (c : Canvas) (a : Area) (lines : List Line) : Canvas :=
  (lines.take a.height).zipIdx.foldl
    (fun c (line, i) => c.drawLine a.x (a.x + a.width) (a.y + i) line) c

/-- A title may be of several lines, which are set side by side. -/
def titleLine (title : String) : Line := (Text.rows title.toList).map (⟨·, {}⟩)

/-- A border with a title in its upper edge, which has the room that the title takes as a whole. -/
def drawBorder (c : Canvas) (a : Area) (title : String) (s : Style) : Canvas :=
  if a.width < 2 || a.height < 2 then c
  else
    let right := a.x + a.width - 1
    let bottom := a.y + a.height - 1
    let side (c : Canvas) (i : Nat) : Canvas :=
      (c.put a.x (a.y + i) ['│'] s).put right (a.y + i) ['│'] s
    let edge (c : Canvas) (i : Nat) : Canvas :=
      (c.put (a.x + i) a.y ['─'] s).put (a.x + i) bottom ['─'] s
    let sides := (List.range a.height).foldl side c
    let edges := (List.range a.width).foldl edge sides
    let corners := (((edges.put a.x a.y ['┌'] s).put right a.y ['┐'] s).put a.x bottom ['└'] s).put
      right bottom ['┘'] s
    let line := titleLine title
    corners.drawLine (a.x + 1) (min right (a.x + 1 + Area.counted (Line.width line))) a.y line

end Canvas

end KeySheet.Screen
