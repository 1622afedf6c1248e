/-! Numbers as MIDI files and their wrappers store them: big-endian in MIDI chunks, little-endian
in the wrapper, and in groups of seven bits inside tracks. -/
namespace KeySheet.Midi

abbrev Bytes := List UInt8

/-- The first `n` bytes and the rest, when there are so many. -/
def takeExactly (n : Nat) (bs : Bytes) : Option (Bytes × Bytes) :=
  if (bs.take n).length = n then some (bs.take n, bs.drop n) else none

/-- The first `n` bytes, or all there are. -/
def takeUpTo (n : Nat) (bs : Bytes) : Bytes × Bytes := (bs.take n, bs.drop n)

def bigEndian (bs : Bytes) : Nat := bs.foldl (fun n b => 256 * n + b.toNat) 0

def littleEndian (bs : Bytes) : Nat := bigEndian bs.reverse

/-- Groups of seven bits, at most `left` of them, the last one without its top bit. At the end of
the data the groups read so far are the number; so are the last groups allowed. -/
def readVarFrom (left n : Nat) : Bytes → Nat × Bytes
  | [] => (n, [])
  | b :: bs =>
      match left with
      | 0 => (n, b :: bs)
      | left + 1 =>
          let n := 128 * n + b.toNat % 128
          if b.toNat < 128 then (n, bs) else readVarFrom left n bs

/-- A number of at most four groups. -/
def readVar (bs : Bytes) : Nat × Bytes := readVarFrom 4 0 bs

/-- A length and as many bytes; at the end of the data the bytes that are left. -/
def readBlock (bs : Bytes) : Bytes × Bytes :=
  let (n, rest) := readVar bs
  takeUpTo n rest

theorem length_readVarFrom (left n : Nat) (bs : Bytes) :
    (readVarFrom left n bs).2.length ≤ bs.length := by
  induction bs generalizing left n with
  | nil => simp [readVarFrom]
  | cons b bs ih =>
      cases left with
      | zero => simp [readVarFrom]
      | succ left =>
          unfold readVarFrom
          dsimp only
          split
          · simp
          · exact Nat.le_trans (ih _ _) (by simp)

theorem length_readBlock (bs : Bytes) : (readBlock bs).2.length ≤ bs.length := by
  have h := length_readVarFrom 4 0 bs
  simp only [readBlock, readVar, takeUpTo, List.length_drop]
  omega

end KeySheet.Midi
