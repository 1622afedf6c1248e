import KeySheet.Sheet.Layout

/-! Sheets as HTML. Every character of the sheet is escaped on its own, so no text of a sheet can
become part of a tag; the tags are a closing tag and three fixed opening ones. -/
namespace KeySheet.Sheet

/-- The three characters that HTML text must not hold are written as entities. -/
def escapeChar : Char → List Char
  | '&' => "&amp;".toList
  | '<' => "&lt;".toList
  | '>' => "&gt;".toList
  | c => [c]

def escape (cs : List Char) : List Char := cs.flatMap escapeChar

def closeTag : List Char := "</span>".toList

def blockTag : List Char := "<span class=\"chord-block\">".toList

/-- The opening tag of a glyph that can be played as written. -/
def plainTag (color : List Char) : List Char :=
  "<span style=\"color:".toList ++ color ++ "\">".toList

/-- The opening tag of a glyph out of range: heavy, underlined and outlined. -/
def markedTag (color : List Char) : List Char :=
  "<span style=\"color:".toList ++ color ++
    ("; font-weight: 900; border-bottom: 2px solid; display: inline-flex; " ++
      "justify-content: center; min-width: 0.6em; text-stroke: 0.9px ").toList ++ color ++
    "; -webkit-text-stroke: 0.9px ".toList ++ color ++ ";\">".toList

def Glyph.openTag (g : Glyph) : List Char :=
  if g.outOfRange then markedTag g.duration.color.hex else plainTag g.duration.color.hex

def Glyph.markup (g : Glyph) : List Char := g.openTag ++ escapeChar g.char ++ closeTag

def spanMarkup (span : Span) : List Char := blockTag ++ span.flatMap Glyph.markup ++ closeTag

def Line.markup : Line → List Char
  | .metadata text | .comment text => escape text
  | .blank => []
  | .content spans => spans.flatMap spanMarkup

/-- Each line of the layout, ended by a newline. -/
def layoutMarkup (lines : Layout) : List Char := lines.flatMap (fun l => l.markup ++ ['\n'])

/-- The coloured form of a sheet text. -/
def colorize (text : String) : String := String.ofList (layoutMarkup (layout text.toList))

end KeySheet.Sheet
