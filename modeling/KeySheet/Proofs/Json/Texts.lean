import KeySheet.Json.Reader
import KeySheet.Json.Writer

/-! The texts of documents. Every text is written between quotes so that it is read back: escapes
stand for the characters that may not stand for themselves, and no half of a surrogate pair is ever
written. -/
namespace KeySheet.Json

/-- What is written for a character is one piece, and the piece is the character. -/
def Spells (c : Char) (written : List Char) : Prop :=
  ∃ piece, (∀ acc more, readPieces acc (written ++ more) = readPieces (piece :: acc) more) ∧
    ∀ rest, joinUnits (piece :: rest) = (joinUnits rest).map (c :: ·)

theorem spells_char {c : Char} {written : List Char}
    (h : ∀ acc more, readPieces acc (written ++ more) = readPieces (.char c :: acc) more) :
    Spells c written :=
  ⟨.char c, h, fun _ => rfl⟩

/-- The character stands for itself. -/
theorem spells_self {c : Char} (noQuote : c ≠ '"') (noSlash : c ≠ '\\') (plain : 0x20 ≤ c.toNat) :
    Spells c [c] := by
  refine spells_char fun acc more => ?_
  rw [List.singleton_append, readPieces.eq_def]
  split
  · next h => cases h
  · next h => cases h; exact absurd rfl noQuote
  · next h => cases h; exact absurd rfl noSlash
  · next h => cases h; exact absurd rfl noSlash
  · next h =>
      cases h
      rw [if_neg (by simp [noSlash, Nat.not_lt.mpr plain])]

theorem hexUnit_control : ∀ n < 0x20,
    hexUnit '0' '0' (Text.hexDigit (n / 16)) (Text.hexDigit (n % 16)) = some n := by
  decide

/-- The unit of a control character stands for it, since it is no half of a pair. -/
theorem spells_control {c : Char} (control : c.toNat < 0x20) :
    Spells c ('\\' :: 'u' :: '0' :: '0' :: Text.hexByte (UInt8.ofNat c.toNat)) := by
  refine ⟨.unit c.toNat, fun acc more => ?_, fun rest => ?_⟩
  · have byte : (UInt8.ofNat c.toNat).toNat = c.toNat :=
      UInt8.toNat_ofNat_of_lt' (Nat.lt_trans control (by decide))
    simp only [Text.hexByte, byte, List.cons_append, List.nil_append, readPieces,
      hexUnit_control _ control]
  · have lead : isLead c.toNat = false := by simp [isLead]; omega
    have trail : isTrail c.toNat = false := by simp [isTrail]; omega
    rw [joinUnits.eq_def]
    split
    · next h => cases h
    · next h => cases h
    · next h =>
        cases h
        rw [lead, trail, Char.ofNat_toNat]
        rfl
    · next h =>
        cases h
        rw [lead, trail, Char.ofNat_toNat]
        rfl

theorem escapeChar_spells (c : Char) : Spells c (escapeChar c) := by
  have named {n : Nat} (h : c.toNat = n) : c = Char.ofNat n := by rw [← h, Char.ofNat_toNat]
  unfold escapeChar
  split
  · next h => subst h; exact spells_char fun acc more => rfl
  split
  · next h => subst h; exact spells_char fun acc more => rfl
  split
  · next noQuote noSlash plain => exact spells_self noQuote noSlash plain
  next control =>
  split
  · next h => cases named h; exact spells_char fun acc more => rfl
  split
  · next h => subst h; exact spells_char fun acc more => rfl
  split
  · next h => subst h; exact spells_char fun acc more => rfl
  split
  · next h => cases named h; exact spells_char fun acc more => rfl
  split
  · next h => subst h; exact spells_char fun acc more => rfl
  · exact spells_control (Nat.lt_of_not_le control)

/-- The pieces of a run of characters give the run again. -/
theorem readPieces_escaped (cs rest : List Char) (acc : List Piece) :
    ∃ pieces, readPieces acc (cs.flatMap escapeChar ++ '"' :: rest) =
        some (pieces.reverse ++ acc, rest) ∧ joinUnits pieces = some cs := by
  induction cs generalizing acc with
  | nil => exact ⟨[], rfl, rfl⟩
  | cons c cs ih =>
      obtain ⟨piece, taken, joined⟩ := escapeChar_spells c
      obtain ⟨pieces, read, join⟩ := ih (piece :: acc)
      refine ⟨piece :: pieces, ?_, ?_⟩
      · rw [List.flatMap_cons, List.append_assoc, taken, read, List.reverse_cons,
          List.append_assoc, List.singleton_append]
      · rw [joined, join]
        rfl

/-- A text between quotes is read back, whatever follows it. -/
theorem readText_quoted (s : String) (rest : List Char) :
    readText (s.toList.flatMap escapeChar ++ '"' :: rest) = some (some s, rest) := by
  obtain ⟨pieces, read, join⟩ := readPieces_escaped s.toList rest []
  rw [readText, read, List.append_nil, Option.map_some, List.reverse_reverse, join,
    Option.map_some, String.ofList_toList]

end KeySheet.Json
