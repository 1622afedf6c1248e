import KeySheet.Text.Integer

/-! Note lengths and their colours. A sheet colours every character by the length of the gap that
ends its chord; the palette is fixed. -/
namespace KeySheet.Sheet

/-- Note lengths, shortest first. `long` stands for text without any timing. -/
inductive Duration where
  | sixtyFourth
  | thirtySecond
  | sixteenth
  | eighth
  | quarter
  | half
  | whole
  | quadruple
  | long
  deriving DecidableEq, Repr

structure Color where
  red : UInt8
  green : UInt8
  blue : UInt8
  deriving DecidableEq, Repr

/-- A number sign and six lower-case hexadecimal digits. -/
def Color.hex (c : Color) : List Char :=
  '#' :: (Text.hexByte c.red ++ Text.hexByte c.green ++ Text.hexByte c.blue)

namespace Duration

/-- Shortest first, as a legend lists them. -/
def all : List Duration :=
  [sixtyFourth, thirtySecond, sixteenth, eighth, quarter, half, whole, quadruple, long]

def color : Duration → Color
  | long | quadruple => ⟨0xa3, 0xf0, 0xa3⟩
  | whole => ⟨0x74, 0xda, 0x74⟩
  | half => ⟨0x9a, 0xda, 0x5a⟩
  | quarter => ⟨0xc0, 0xc0, 0x5a⟩
  | eighth => ⟨0xda, 0x7e, 0x5a⟩
  | sixteenth => ⟨0xda, 0xa6, 0xa6⟩
  | thirtySecond => ⟨0xff, 0x19, 0x00⟩
  | sixtyFourth => ⟨0x9c, 0x0f, 0x00⟩

def label : Duration → String
  | sixtyFourth => "1/64"
  | thirtySecond => "1/32"
  | sixteenth => "1/16"
  | eighth => "1/8"
  | quarter => "1/4"
  | half => "1/2"
  | whole => "1"
  | quadruple => "4"
  | long => "long"

theorem mem_all (d : Duration) : d ∈ all := by cases d <;> decide

end Duration

end KeySheet.Sheet
