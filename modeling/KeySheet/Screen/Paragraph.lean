import KeySheet.Screen.Canvas
import KeySheet.Text.Blank

/-! Blocks of text: lines cut at the edge of their area, or wrapped between words. -/
namespace KeySheet.Screen

inductive Align where
  | left
  | center
  | right
  deriving DecidableEq, Repr

/-- How far a line of some width is moved into an area. -/
def Align.offset (al : Align) (areaWidth lineWidth : Nat) : Nat :=
  match al with
  | .left => 0
  | .center => areaWidth / 2 - lineWidth / 2
  | .right => areaWidth - lineWidth

/-- As many glyphs as fit behind `used` columns; one that is wider than the whole is left out. -/
def fit (width used : Nat) : List Glyph → List Glyph
  | [] => []
  | g :: rest =>
      if width < g.width then fit width used rest
      else if width < used + g.width then []
      else g :: fit width (used + g.width) rest

def zeroWidthSpace : Char := Char.ofNat 0x200B

def noBreakSpace : Char := Char.ofNat 0xA0

/-- A line may be broken at it. -/
def Glyph.isBlank (g : Glyph) : Bool :=
  g.cluster == [zeroWidthSpace] || (g.cluster.all Text.isBlank && g.cluster != [noBreakSpace])

/-- A line in the making: whole words, the blanks behind them, and the word that is being read. -/
structure Wrapping where
  /-- Finished lines, the last one first. -/
  done : List (List Glyph) := []
  line : List Glyph := []
  blanks : List Glyph := []
  word : List Glyph := []
  afterWord : Bool := false

namespace Wrapping

/-- The line with the word at its end; blanks stay only between words. -/
def joined (s : Wrapping) : List Glyph :=
  (if s.line.isEmpty then [] else s.line ++ s.blanks) ++ s.word

def push (s : Wrapping) (g : Glyph) : Wrapping :=
  if g.isBlank then { s with blanks := s.blanks ++ [g], afterWord := false }
  else { s with word := s.word ++ [g], afterWord := true }

/-- Drops the blanks that fit into the rest of a line. -/
def dropBlanks (room : Nat) : List Glyph → List Glyph
  | [] => []
  | g :: rest => if room < g.width then g :: rest else dropBlanks (room - g.width) rest

/-- A word ends, or nothing but it fits into the line. -/
def ends (width : Nat) (s : Wrapping) (g : Glyph) : Bool :=
  (s.afterWord && g.isBlank) ||
    (s.line.isEmpty &&
      (width < widthOf s.word + g.width || width < widthOf s.blanks + g.width))

/-- There is no room for one more glyph. -/
def full (width : Nat) (s : Wrapping) (g : Glyph) : Bool :=
  width ≤ widthOf s.line ||
    (0 < g.width && width ≤ widthOf s.line + widthOf s.blanks + widthOf s.word)

def step (width : Nat) (s : Wrapping) (g : Glyph) : Wrapping :=
  if width < g.width then s
  else
    let s := if s.ends width g then { s with line := s.joined, blanks := [], word := [] } else s
    if s.full width g then
      let blanks := dropBlanks (width - widthOf s.line) s.blanks
      let next := { s with done := s.line :: s.done, line := [], blanks := blanks }
      if g.isBlank && blanks.isEmpty then next else next.push g
    else s.push g

/-- The lines that have come out; there is always one. -/
def finish (s : Wrapping) : List (List Glyph) :=
  let empty := if s.line.isEmpty && s.word.isEmpty && !s.blanks.isEmpty then [[]] else []
  let last := if s.joined.isEmpty then [] else [s.joined]
  match s.done.reverse ++ empty ++ last with
  | [] => [[]]
  | lines => lines

end Wrapping

/-- Breaks a line between words, and long words where they reach the edge. -/
def wrap (width : Nat) (gs : List Glyph) : List (List Glyph) :=
  (gs.foldl (Wrapping.step width) {}).finish

namespace Canvas

/-- Draws rows of glyphs from the top of an area. -/
def drawRows (c : Canvas) (a : Area) (al : Align) (rows : List (List Glyph)) : Canvas :=
  (rows.take a.height).zipIdx.foldl
    (fun c (gs, i) => c.putGlyphs (a.x + al.offset a.width (widthOf gs)) (a.y + i) gs) c

/-- Draws lines, each cut at the edge. -/
def drawParagraph (c : Canvas) (a : Area) (lines : List Line) (al : Align := .left) : Canvas :=
  if a.isEmpty then c
  else c.drawRows a al ((lines.take a.height).map (fun l => fit a.width 0 (Line.glyphs l)))

/-- Draws lines from a scroll on; nothing can be drawn when the last row cannot be counted. -/
def drawScrolled (c : Canvas) (a : Area) (scroll : Nat) (lines : List Line) : Canvas :=
  if Area.limit < scroll + a.height then c else c.drawParagraph a (lines.drop scroll)

/-- Draws lines, wrapped between words, in a style that the whole area takes. -/
def drawWrapped (c : Canvas) (a : Area) (lines : List Line) (s : Style) : Canvas :=
  if a.isEmpty then c
  else (c.restyle a s).drawRows a .left
    (lines.flatMap (fun l => wrap a.width (Line.glyphs l)))

/-- Draws glyphs up to the first one without room; control characters are left out. -/
def drawLabel (c : Canvas) (x y room : Nat) : List Glyph → Canvas
  | [] => c
  | g :: rest =>
      if g.width = 0 || g.cluster.any Text.isControl then c.drawLabel x y room rest
      else if room < g.width then c
      else
        ((c.put x y g.cluster g.style).modifyRow (x + 1) y (fun _ => {}) (g.width - 1)).drawLabel
          (x + g.width) y (room - g.width) rest

/-- A bar, filled from the left by percent, with a label in the middle whose colours are swapped
where the bar is filled. -/
def drawGauge (c : Canvas) (a : Area) (fg bg : Color) (percent : Nat) (label : String) : Canvas :=
  if a.isEmpty then c
  else
    let width := min a.width (Area.counted (Text.width label.toList))
    let start := (a.width - width) / 2
    let filled := Area.roundHundredths (a.width * min percent 100)
    let cellAt (i : Nat) (cell : Cell) : Cell :=
      if i < start || start + width < i then { cell with cluster := ['█'], fg := fg, bg := bg }
      else { cell with cluster := [' '], fg := bg, bg := fg }
    let bar := (List.range filled).foldl (fun c i => c.modify (a.x + i) a.y (cellAt i))
      (c.restyle a { fg := some fg, bg := some bg })
    bar.drawLabel (a.x + start) a.y width (run label).glyphs

end Canvas

end KeySheet.Screen
