import KeySheet.Media.Result

/-! The conversions of the past, newest first, with the one that is highlighted and the first one
that is on the screen. The converter keeps the list; this is the client's copy. -/
namespace KeySheet

open Media (Entry)

structure History where
  entries : List Entry := []
  selected : Nat := 0
  scroll : Nat := 0
  deriving Repr

namespace History

/-- No more are asked for, and no more are kept. -/
def capacity : Nat := 32

/-- The place of a timestamp. -/
def position (h : History) (timestamp : Decimal.Binary64) : Option Nat :=
  h.entries.findIdx? (fun e => e.timestamp.same timestamp)

def current? (h : History) : Option Entry := h.entries[h.selected]?

/-- Brings the highlight back into the list, and the scroll back to the highlight. -/
def clamp (h : History) : History :=
  if h.entries.isEmpty then ⟨[], 0, 0⟩
  else
    let selected := min h.selected (h.entries.length - 1)
    ⟨h.entries, selected, min h.scroll selected⟩

/-- Takes a list from the converter; the highlight stays with its timestamp if that is still
there. -/
def replace (h : History) (entries : List Entry) : History :=
  let next : History := ⟨entries.take capacity, 0, h.scroll⟩
  let selected := (h.current?.bind (fun e => next.position e.timestamp)).getD 0
  { next with selected := selected }.clamp

/-- Puts a conversion in front, over one with the same timestamp; the oldest one falls out of a
full list. -/
def record (h : History) (entry : Entry) : History :=
  let others := match h.position entry.timestamp with
    | some i => h.entries.eraseIdx i
    | none => h.entries
  ⟨(entry :: others).take capacity, 0, 0⟩

/-- Removes a timestamp, and tells what stood there. -/
def remove (h : History) (timestamp : Decimal.Binary64) : History × Option Entry :=
  match h.position timestamp with
  | none => (h, none)
  | some i => ({ h with entries := h.entries.eraseIdx i }.clamp, h.entries[i]?)

def selectPrev (h : History) : History :=
  if h.selected = 0 then h
  else { h with selected := h.selected - 1, scroll := min h.scroll (h.selected - 1) }

/-- Moves down, and scrolls when the highlight would leave the rows on the screen. -/
def selectNext (h : History) (visibleRows : Nat) : History :=
  if h.selected + 1 < h.entries.length then
    let selected := h.selected + 1
    let rows := max visibleRows 1
    { h with
      selected := selected
      scroll := if h.scroll + rows ≤ selected then selected + 1 - rows else h.scroll }
  else h

end History

end KeySheet
