import KeySheet.Sheet.Markup

/-! The page that a sheet is exported as. The title is escaped; the markup of the sheet already
is. -/
namespace KeySheet.Sheet

/-- Up to the first title. -/
def pageHead : String :=
  "<!DOCTYPE html>\n<html>\n<head>\n<meta charset=\"utf-8\">\n<title>"

/-- Between the two titles. -/
def pageStyle : String :=
  "</title>\n<style>body \x7b background: #111827; color: #e5e7eb; \x7d " ++
    "pre \x7b font-family: monospace; font-size: 15px; line-height: 1.6; \x7d " ++
    ".chord-block \x7b display: inline; \x7d</style>\n</head>\n<body>\n<h3>"

def pageBody : String := "</h3>\n<pre>"

def pageFoot : String := "</pre>\n</body>\n</html>\n"

/-- Every `c` replaced by a text. -/
def replaceChar (c : Char) (by_ : List Char) (cs : List Char) : List Char :=
  cs.flatMap (fun d => if d = c then by_ else [d])

/-- The title with its special characters replaced one kind after another; the ampersand comes
first, as the others bring new ones. -/
def escapeTitle (title : List Char) : List Char :=
  replaceChar '>' "&gt;".toList (replaceChar '<' "&lt;".toList
    (replaceChar '&' "&amp;".toList title))

/-- The page with a title and the markup of a sheet. -/
def htmlPage (title markup : String) : String :=
  let safe := String.ofList (escapeTitle title.toList)
  pageHead ++ safe ++ pageStyle ++ safe ++ pageBody ++ markup ++ pageFoot

end KeySheet.Sheet
