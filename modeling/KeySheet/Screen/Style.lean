import KeySheet.Sheet.Duration
import KeySheet.Text.Cluster
import KeySheet.Text.Width

/-! Text with a look: runs of characters in one style, lines of runs, and the glyphs that a line is
drawn as. -/
namespace KeySheet.Screen

inductive Color where
  /-- Whatever the terminal has. -/
  | reset
  | black
  | red
  | green
  | yellow
  | blue
  | magenta
  | cyan
  | gray
  | darkGray
  | white
  | exact (color : Sheet.Color)
  deriving DecidableEq, Repr

structure Emphasis where
  bold : Bool := false
  italic : Bool := false
  underlined : Bool := false
  slowBlink : Bool := false
  reversed : Bool := false
  deriving DecidableEq, Repr

/-- Both, where they differ. -/
def Emphasis.with (a b : Emphasis) : Emphasis :=
  ⟨a.bold || b.bold, a.italic || b.italic, a.underlined || b.underlined,
    a.slowBlink || b.slowBlink, a.reversed || b.reversed⟩

/-- What a text sets; a colour that is left out stays as it was. -/
structure Style where
  fg : Option Color := none
  bg : Option Color := none
  emphasis : Emphasis := {}
  deriving DecidableEq, Repr

def Style.bold (s : Style) : Style := { s with emphasis := { s.emphasis with bold := true } }

def Style.italic (s : Style) : Style := { s with emphasis := { s.emphasis with italic := true } }

def Style.underlined (s : Style) : Style :=
  { s with emphasis := { s.emphasis with underlined := true } }

def Style.reversed (s : Style) : Style :=
  { s with emphasis := { s.emphasis with reversed := true } }

/-- The style of one colour. -/
def Color.style (c : Color) : Style := { fg := some c }

structure Run where
  text : List Char
  style : Style := {}
  deriving DecidableEq, Repr

abbrev Line := List Run

/-- A text in one style. -/
def run (text : String) (style : Style := {}) : Run := ⟨text.toList, style⟩

/-- One cluster of a text, as it is drawn. -/
structure Glyph where
  cluster : List Char
  style : Style
  deriving DecidableEq, Repr

def Glyph.width (g : Glyph) : Nat := Text.width g.cluster

/-- The clusters that are drawn: all but a newline. Other control characters take a cell. -/
def Run.glyphs (r : Run) : List Glyph :=
  ((Text.clusters r.text).filter (· != ['\n'])).map (⟨·, r.style⟩)

def Line.glyphs (l : Line) : List Glyph := l.flatMap Run.glyphs

/-- The columns of a line, each run taken as a whole. -/
def Line.width (l : Line) : Nat := l.foldl (fun n r => n + Text.width r.text) 0

/-- The columns that glyphs take side by side. -/
def widthOf : List Glyph → Nat
  | [] => 0
  | g :: rest => g.width + widthOf rest

/-- Blanks up to a width in characters. -/
def padTo (n : Nat) (text : String) : String :=
  text ++ String.ofList (List.replicate (n - text.length) ' ')

end KeySheet.Screen
