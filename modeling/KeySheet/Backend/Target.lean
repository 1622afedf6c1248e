import KeySheet.Backend.Percent
import KeySheet.Text.Ascii
import KeySheet.Text.Parts

/-! What is asked of a host: the path and query of an address, with every byte that must not stand
there written as a percent sign and two digits. Dots as segments are resolved, backslashes count
as slashes, and a fragment is dropped. -/
namespace KeySheet.Backend.Target

def isControl (c : Char) : Bool := c.toNat < 0x20 || c.toNat == 0x7F

/-- Characters that a path holds only in percent form. -/
def isPathReserved (c : Char) : Bool :=
  isControl c || 0x7F < c.toNat ||
    [' ', '"', '#', '<', '>', '?', Char.ofNat 0x60, '\x7b', '\x7d'].contains c

/-- Characters that a query holds only in percent form. -/
def isQueryReserved (c : Char) : Bool :=
  isControl c || 0x7F < c.toNat || [' ', '"', '#', '<', '>', '\''].contains c

/-- Cuts at slashes of either kind. -/
def pathSegments (path : List Char) : List (List Char) :=
  Text.parts (fun c => c == '/' || c == '\\') path

/-- A segment with the percent forms of the dot undone. -/
def plainDots : List Char → List Char
  | '%' :: '2' :: e :: rest =>
      if e = 'e' || e = 'E' then '.' :: plainDots rest else '%' :: '2' :: e :: plainDots rest
  | c :: rest => c :: plainDots rest
  | [] => []

def isDot (segment : List Char) : Bool := plainDots segment == ['.']

def isDotDot (segment : List Char) : Bool := plainDots segment == ['.', '.']

/-- The letter of a drive, with the colon or the bar behind it. -/
def isDrive : List Char → Bool
  | [c, mark] => Text.isAsciiLetter c && (mark == ':' || mark == '|')
  | _ => false

/-- Leaves the last segment, given first; a drive is not left. -/
def leave : List (List Char) → List (List Char)
  | [] => []
  | s :: done => if isDrive s then s :: done else done

/-- Resolves dot segments; `done` holds the segments before in reverse. A dot segment at the end
leaves an empty one. -/
def resolveDots (done : List (List Char)) : List (List Char) → List (List Char)
  | [] => done.reverse
  | [s] =>
      if isDotDot s then (leave done).reverse ++ [[]]
      else if isDot s then done.reverse ++ [[]]
      else (s :: done).reverse
  | s :: rest =>
      if isDotDot s then resolveDots (leave done) rest
      else if isDot s then resolveDots done rest
      else resolveDots (s :: done) rest

/-- Two queries as one; an ampersand parts them where neither is empty. -/
def joinQueries (a b : List Char) : List Char :=
  if a.isEmpty || b.isEmpty then a ++ b else a ++ '&' :: b

/-- The path and query of what stands behind a host, to which one more query is added. An empty
query is not asked for. -/
def ofRest (rest more : List Char) : List Char :=
  let rest := rest.takeWhile (· != '#')
  let path := rest.takeWhile (· != '?')
  let query := joinQueries (Percent.encode isQueryReserved ((rest.dropWhile (· != '?')).drop 1)) more
  let segments := match path with
    | '/' :: cs | '\\' :: cs => resolveDots [] (pathSegments cs)
    | cs => resolveDots [] (pathSegments cs)
  '/' :: ['/'].intercalate (segments.map (Percent.encode isPathReserved)) ++
    (if query.isEmpty then [] else '?' :: query)

end KeySheet.Backend.Target
