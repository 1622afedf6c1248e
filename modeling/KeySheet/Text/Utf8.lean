/-! Texts as bytes. Encoding is the standard one; decoding refuses bytes that are no text. -/
namespace KeySheet.Text

def utf8 (s : String) : List UInt8 := s.toUTF8.toList

/-- The text of bytes, when they are the encoding of one. -/
def ofUtf8? (bytes : List UInt8) : Option String := String.fromUTF8? ⟨bytes.toArray⟩

theorem toList_eq_data (bytes : ByteArray) : bytes.toList = bytes.data.toList := by
  have loop (i : Nat) (seen : List UInt8) :
      ByteArray.toList.loop bytes i seen = seen.reverse ++ bytes.data.toList.drop i := by
    fun_induction ByteArray.toList.loop bytes i seen with
    | case1 i seen inside ih =>
        have bound : i < bytes.data.toList.length := inside
        rw [ih, List.drop_eq_getElem_cons bound]
        simp [ByteArray.get!, inside]
    | case2 i seen outside =>
        rw [List.drop_eq_nil_of_le (Nat.le_of_not_lt outside), List.append_nil]
  rw [ByteArray.toList, loop]
  rfl

/-- A text is encoded one character at a time. -/
theorem utf8_eq_flatMap (s : String) : utf8 s = s.toList.flatMap String.utf8EncodeChar := by
  have encoded (cs : List Char) :
      utf8 (String.ofList cs) = cs.flatMap String.utf8EncodeChar := by
    rw [utf8, String.toUTF8_eq_toByteArray, String.toByteArray_ofList, List.utf8Encode,
      toList_eq_data, List.data_toByteArray]
  rw [← encoded, String.ofList_toList]

theorem utf8_append (s t : String) : utf8 (s ++ t) = utf8 s ++ utf8 t := by
  rw [utf8_eq_flatMap, String.toList_append, List.flatMap_append, utf8_eq_flatMap,
    utf8_eq_flatMap]

theorem ofUtf8?_utf8 (s : String) : ofUtf8? (utf8 s) = some s := by
  have same : (⟨(utf8 s).toArray⟩ : ByteArray) = s.toByteArray := by
    rw [utf8, toList_eq_data]
    rfl
  rw [ofUtf8?, same, String.fromUTF8?, dif_pos s.isValidUTF8]
  rfl

/-- A byte below 128 is a character of its own. -/
theorem toNat_eq_of_mem_encode {b : UInt8} {c : Char} (member : b ∈ String.utf8EncodeChar c)
    (small : b.toNat < 128) : c.toNat = b.toNat := by
  have whole : c.val.toNat = c.toNat := rfl
  rw [String.utf8EncodeChar] at member
  split at member
  · rw [List.mem_singleton] at member
    rw [member, UInt8.toNat_ofNat', ← whole]
    omega
  -- Every byte of a longer encoding is 128 or more.
  · have large : 128 ≤ b.toNat := by
      split at member
      · simp only [List.mem_cons, List.not_mem_nil, or_false] at member
        rcases member with rfl | rfl <;> rw [UInt8.toNat_ofNat'] <;> omega
      · split at member
        · simp only [List.mem_cons, List.not_mem_nil, or_false] at member
          rcases member with rfl | rfl | rfl <;> rw [UInt8.toNat_ofNat'] <;> omega
        · simp only [List.mem_cons, List.not_mem_nil, or_false] at member
          rcases member with rfl | rfl | rfl | rfl <;> rw [UInt8.toNat_ofNat'] <;> omega
    omega

end KeySheet.Text
