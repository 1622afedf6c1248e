import KeySheet.Backend.Percent
import KeySheet.Text.Integer
import KeySheet.Text.Parts
import KeySheet.Text.Shape

/-! Hosts: names, and the two kinds of numbers. A name whose last label is a number has to be an
IPv4 address as a whole; an IPv6 address stands in square brackets. Neither reader gives a number
that is too large for its kind. -/
namespace KeySheet.Backend

inductive Host where
  | name (name : String)
  | ipv4 (number : Nat)
  | ipv6 (groups : List Nat)
  deriving DecidableEq, Repr

namespace Host

/-- A part of an IPv4 address: hexadecimal behind `0x`, octal behind any other zero, else decimal. -/
def part? : List Char → Option Nat
  | [] => none
  | '0' :: c :: cs => if c == 'x' || c == 'X' then Text.readIn? 16 cs else Text.readIn? 8 (c :: cs)
  | cs => Text.readIn? 10 cs

/-- An IPv4 address of at most four parts. All but the last one are bytes; the last one fills all
the bytes that are left. -/
def ipv4? (parts : List (List Char)) : Option Nat := do
  let numbers ← parts.mapM part?
  let last ← numbers.getLast?
  let bytes := numbers.dropLast
  let rest := Nat.pow 256 (4 - bytes.length)
  if bytes.length < 4 && bytes.all (· < 256) && last < rest then
    some (bytes.foldl (fun n b => 256 * n + b) 0 * rest + last)
  else none

/-- The labels between dots; a dot at the end starts no label. -/
def labels (name : List Char) : List (List Char) :=
  let parts := Text.parts (· == '.') name
  if parts.getLast? == some [] then parts.dropLast else parts

/-- The label is a number, be it too large or in digits that its base does not have. -/
def isNumeric (label : List Char) : Bool :=
  (!label.isEmpty && label.all Text.isAsciiDigit) || (part? label).isSome

/-- A group of an IPv6 address. -/
def group? (cs : List Char) : Option Nat :=
  if cs.isEmpty || 4 < cs.length then none else Text.readIn? 16 cs

/-- A byte in decimal digits, without a zero in front. -/
def byte? : List Char → Option Nat
  | '0' :: _ :: _ => none
  | cs => (Text.readDigits cs).filter (· < 256)

/-- Two groups, written as four bytes between dots. -/
def dotted? (cs : List Char) : Option (List Nat) := do
  match ← (Text.parts (· == '.') cs).mapM byte? with
  | [a, b, c, d] => some [256 * a + b, 256 * c + d]
  | _ => none

/-- The groups of the pieces; only the last piece may be a dotted one, where any may. -/
def groups? (dots : Bool) : List (List Char) → Option (List Nat)
  | [] => some []
  | [p] => if dots && p.contains '.' then dotted? p else (group? p).map ([·])
  | p :: ps => do return (← group? p) :: (← groups? dots ps)

/-- The pieces between colons; there are none of an empty text. -/
def pieces (cs : List Char) : List (List Char) :=
  if cs.isEmpty then [] else Text.parts (· == ':') cs

/-- What stands in front of the first two colons in a row, and what behind them. -/
def splitGap : List Char → Option (List Char × List Char)
  | [] => none
  | ':' :: ':' :: rest => some ([], rest)
  | c :: rest => (splitGap rest).map (fun (before, after) => (c :: before, after))

/-- The groups of an IPv6 address; two colons in a row stand for one or more groups of zero. -/
def ipv6? (cs : List Char) : Option (List Nat) :=
  match splitGap cs with
  | none => (groups? true (pieces cs)).filter (·.length == 8)
  | some (before, after) => do
      let before ← groups? false (pieces before)
      let after ← groups? true (pieces after)
      let gap := 8 - (before.length + after.length)
      if 0 < gap then some (before ++ List.replicate gap 0 ++ after) else none

/-- Characters that no name holds. -/
def isReserved (c : Char) : Bool :=
  c.toNat ≤ 0x20 || c.toNat == 0x7F || "#%/:<>?@[\\]^|".toList.contains c

def ofText? : List Char → Option Host
  | '[' :: cs => if cs.getLast? == some ']' then (ipv6? cs.dropLast).map ipv6 else none
  | cs => do
      let name := Text.plainName (← Text.ofUtf8? (Percent.decode cs)).toList
      if name.isEmpty || name.any isReserved then none
      else if (labels name).getLast?.any isNumeric then (ipv4? (labels name)).map ipv4
      else some (.name (String.ofList name))

theorem length_of_ipv6 {cs : List Char} {groups : List Nat} (h : ipv6? cs = some groups) :
    groups.length = 8 := by
  unfold ipv6? at h
  split at h
  · simpa using (Option.filter_eq_some_iff.mp h).2
  · simp only [bind, Option.bind_eq_some_iff] at h
    obtain ⟨before, _, after, _, h⟩ := h
    split at h
    · cases h
      simp only [List.length_append, List.length_replicate]
      omega
    · exact absurd h (by simp)

/-- Bytes are the digits of a number in base 256. -/
theorem foldl_bytes_lt {bytes : List Nat} (h : bytes.all (· < 256) = true) :
    bytes.foldl (fun n b => 256 * n + b) 0 < Nat.pow 256 bytes.length := by
  suffices H : ∀ (bs : List Nat) (n k : Nat), bs.all (· < 256) = true → n < Nat.pow 256 k →
      bs.foldl (fun n b => 256 * n + b) n < Nat.pow 256 (k + bs.length) by
    simpa using H bytes 0 0 h (by decide)
  intro bs
  induction bs with
  | nil => intro n k _ hn; simpa using hn
  | cons b bs ih =>
      intro n k hb hn
      simp only [List.all_cons, Bool.and_eq_true, decide_eq_true_eq] at hb
      have step : 256 * n + b < Nat.pow 256 (k + 1) := by
        show _ < Nat.pow 256 k * 256
        omega
      have := ih (256 * n + b) (k + 1) hb.2 step
      simpa [Nat.add_assoc, Nat.add_comm, Nat.add_left_comm] using this

theorem ipv4_lt {parts : List (List Char)} {n : Nat} (h : ipv4? parts = some n) :
    n < 4294967296 := by
  simp only [ipv4?, bind, Option.bind_eq_some_iff] at h
  obtain ⟨numbers, _, last, _, h⟩ := h
  split at h
  · rename_i hc
    simp only [Bool.and_eq_true, decide_eq_true_eq] at hc
    obtain ⟨⟨hlen, hbytes⟩, hlast⟩ := hc
    cases h
    have hlt := foldl_bytes_lt hbytes
    generalize numbers.dropLast.foldl _ 0 = m at hlt ⊢
    generalize numbers.dropLast.length = k at *
    have : k = 0 ∨ k = 1 ∨ k = 2 ∨ k = 3 := by omega
    rcases this with rfl | rfl | rfl | rfl <;> simp [Nat.pow] at * <;> omega
  · exact absurd h (by simp)

end Host

end KeySheet.Backend
