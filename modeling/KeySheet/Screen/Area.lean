/-! Rectangles of a screen and the ways to cut them. -/
namespace KeySheet.Screen

structure Area where
  x : Nat
  y : Nat
  width : Nat
  height : Nat
  deriving DecidableEq, Repr

namespace Area

def isEmpty (a : Area) : Bool := a.width = 0 || a.height = 0

/-- Without a border of one cell. -/
def inner (a : Area) : Area := ⟨a.x + 1, a.y + 1, a.width - 2, a.height - 2⟩

def contains (a : Area) (x y : Nat) : Bool :=
  a.x ≤ x && x < a.x + a.width && a.y ≤ y && y < a.y + a.height

/-- The first `n` rows. -/
def top (n : Nat) (a : Area) : Area := { a with height := min n a.height }

/-- All but the first `n` rows. -/
def below (n : Nat) (a : Area) : Area :=
  let n := min n a.height
  { a with y := a.y + n, height := a.height - n }

/-- All but the last row. -/
def aboveLast (a : Area) : Area := { a with height := a.height - 1 }

/-- The last row. -/
def lastRow (a : Area) : Area :=
  { a with y := a.y + (a.height - 1), height := min 1 a.height }

/-- A single row, counted from the top. -/
def row (n : Nat) (a : Area) : Area := (a.below n).top 1

/-- The columns from `n` on, `m` of them. -/
def columns (n m : Nat) (a : Area) : Area := { a with x := a.x + n, width := m }

/-- The whole number nearest to a number of hundredths, a half going up. -/
def roundHundredths (n : Nat) : Nat := (n + 50) / 100

/-- No area reaches beyond this column or row. -/
def limit : Nat := 65535

/-- The columns of a text as they are counted: in sixteen bits, from zero on again. -/
def counted (columns : Nat) : Nat := columns % (limit + 1)

/-- The middle part of a length, by percent, as far as it lies within the limit; what is left is
parted into two equal margins of whole percents. Both ends are rounded on their own. -/
def middle (start length percent : Nat) : Nat × Nat :=
  let length := min length (limit - start)
  let left := 100 * start + length * ((100 - percent) / 2)
  let first := roundHundredths left
  (first, roundHundredths (left + length * percent) - first)

/-- An area of stated percents in the middle of another one. -/
def centered (percentX percentY : Nat) (a : Area) : Area :=
  let (x, width) := middle a.x a.width percentX
  let (y, height) := middle a.y a.height percentY
  ⟨x, y, width, height⟩

/-- Two columns, of which the left one has a stated percentage. -/
def sideBySide (percent : Nat) (a : Area) : Area × Area :=
  let left := roundHundredths (a.width * percent)
  (a.columns 0 left, a.columns left (a.width - left))

theorem inner_width (a : Area) : a.inner.width = a.width - 2 := rfl

theorem sideBySide_width {percent : Nat} (a : Area) (h : percent ≤ 100) :
    (a.sideBySide percent).1.width + (a.sideBySide percent).2.width = a.width := by
  have : a.width * percent ≤ a.width * 100 := Nat.mul_le_mul_left _ h
  simp only [sideBySide, columns, roundHundredths]
  omega

end Area

end KeySheet.Screen
