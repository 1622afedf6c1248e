import KeySheet.Text.Integer
import KeySheet.Text.Utf8

/-! Bytes in percent form: a percent sign and two hexadecimal digits. What is written so is read
back as the same byte. -/
namespace KeySheet.Backend.Percent

def upperHex (n : Nat) : Char := if n < 10 then Char.ofNat (48 + n) else Char.ofNat (55 + n)

def ofByte (b : UInt8) : List Char := ['%', upperHex (b.toNat / 16), upperHex (b.toNat % 16)]

/-- Writes the bytes of the characters of a kind in percent form. -/
def encode (reserved : Char → Bool) (cs : List Char) : List Char :=
  cs.flatMap (fun c =>
    if reserved c then (Text.utf8 (String.ofList [c])).flatMap ofByte else [c])

/-- The bytes of a text, with percent forms undone; a percent sign without two digits behind it
stands for itself. -/
def decode : List Char → List UInt8
  | [] => []
  | '%' :: a :: b :: rest =>
      match Text.readIn? 16 [a, b] with
      | some n => UInt8.ofNat n :: decode rest
      | none => Text.utf8 "%" ++ decode (a :: b :: rest)
  | c :: rest => Text.utf8 (String.ofList [c]) ++ decode rest

theorem digitIn_upperHex : ∀ n < 16, Text.digitIn? 16 (upperHex n) = some n := by decide

theorem decode_ofByte (b : UInt8) (rest : List Char) :
    decode (ofByte b ++ rest) = b :: decode rest := by
  have hb : b.toNat < 256 := b.toNat_lt
  have hread : Text.readIn? 16 [upperHex (b.toNat / 16), upperHex (b.toNat % 16)] =
      some b.toNat := by
    simp only [Text.readIn?, List.foldlM, digitIn_upperHex _ (show b.toNat / 16 < 16 by omega),
      digitIn_upperHex _ (show b.toNat % 16 < 16 by omega), Option.map_some, bind, Option.bind,
      pure]
    congr 1
    omega
  simp only [ofByte, List.cons_append, List.nil_append]
  rw [decode, hread]
  simp

end KeySheet.Backend.Percent
