import KeySheet.Text.Parts

/-! Cutting a text into lines. Two readers share the newline rule and differ only at the end of
the text: the layout keeps an empty piece after a last newline, the header scan does not. -/
namespace KeySheet.Text

/-- The pieces between newlines; one more than there are newlines. -/
def pieces (cs : List Char) : List (List Char) := parts (· == '\n') cs

/-- One carriage return at the end of a piece belongs to the line ending. -/
def dropReturn (cs : List Char) : List Char :=
  match cs.getLast? with
  | some '\r' => cs.dropLast
  | _ => cs

/-- The piece after a last newline is a line only when it holds something. Its carriage return
stays, as no newline follows it. -/
def rows (cs : List Char) : List (List Char) :=
  let ps := pieces cs
  ps.dropLast.map dropReturn ++ (match ps.getLast? with
    | some (c :: p) => [c :: p]
    | _ => [])

theorem pieces_ne_nil (cs : List Char) : pieces cs ≠ [] := parts_ne_nil _ cs

/-- The pieces joined by newlines are the text. -/
theorem intercalate_pieces (cs : List Char) : ['\n'].intercalate (pieces cs) = cs :=
  intercalate_parts '\n' cs

end KeySheet.Text
