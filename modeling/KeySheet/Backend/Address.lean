import KeySheet.Backend.Host
import KeySheet.Backend.Target

/-! Addresses of a converter: which host to reach, at which of its sockets, and what to ask of it. -/
namespace KeySheet.Backend

structure Address where
  /-- Over an encrypted connection. -/
  secure : Bool
  host : Host
  /-- The number of the socket at the host. -/
  socket : Nat
  /-- What stands in the first line of a request. -/
  target : String
  deriving DecidableEq, Repr

namespace Address

/-- Line breaks and tabs are no part of an address, nor are blanks and controls at its ends. -/
def clean (url : List Char) : List Char :=
  let ends (c : Char) : Bool := c.toNat ≤ 0x20
  let inner := ((url.dropWhile ends).reverse.dropWhile ends).reverse
  inner.filter (fun c => c != '\t' && c != '\n' && c != '\r')

def isSlash (c : Char) : Bool := c == '/' || c == '\\'

/-- The end of the part that names a host. -/
def endsHost (c : Char) : Bool := isSlash c || c == '?' || c == '#'

/-- An encrypted connection, or a plain one; nothing else is spoken. -/
def secure? (scheme : List Char) : Option Bool :=
  let low := Text.foldCase scheme
  if low == "https".toList then some true
  else if low == "http".toList then some false
  else none

def usualSocket (secure : Bool) : Nat := if secure then 443 else 80

/-- The largest number of a socket. -/
def maxSocket : Nat := 65535

/-- The socket behind a colon; without digits it is the usual one. -/
def socket? (secure : Bool) : List Char → Option Nat
  | [] | [':'] => some (usualSocket secure)
  | ':' :: ds => (Text.readDigits ds).filter (· ≤ maxSocket)
  | _ => none

/-- Cuts in front of the first colon that no square bracket holds. -/
def splitSocket (inBrackets : Bool) : List Char → List Char × List Char
  | [] => ([], [])
  | c :: cs =>
      if c == ':' && !inBrackets then ([], c :: cs)
      else
        let (host, socket) := splitSocket (c == '[' || (inBrackets && c != ']')) cs
        (c :: host, socket)

/-- Reads an address, with one more query to ask. What stands before an at sign says who asks, not
whom. -/
def ofUrl? (url more : List Char) : Option Address := do
  let (scheme, rest) := (clean url).span (· != ':')
  let secure ← secure? scheme
  let rest := (← rest.tail?).dropWhile isSlash
  let (place, rest) := rest.span (fun c => !endsHost c)
  let (host, socketText) := splitSocket false (place.reverse.takeWhile (· != '@')).reverse
  let socket ← socket? secure socketText
  let host ← Host.ofText? host
  some ⟨secure, host, socket, String.ofList (Target.ofRest rest more)⟩

end Address

end KeySheet.Backend
