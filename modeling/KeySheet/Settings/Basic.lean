import KeySheet.Json.Basic

/-! The settings that sheets are made with. The converter keeps them for all its clients; fields
this client does not name are carried along untouched. -/
namespace KeySheet

/-- How the transposition of a sheet is chosen. -/
inductive TransposeMode where
  /-- The single best one. -/
  | auto
  /-- One section for each useful one. -/
  | multi
  deriving DecidableEq, Repr, Inhabited

namespace TransposeMode

def toggled : TransposeMode → TransposeMode
  | auto => multi
  | multi => auto

def label : TransposeMode → String
  | auto => "Auto"
  | multi => "Multi"

end TransposeMode

/-- Where notes go that quantization shifts. -/
inductive ShiftedPlacement where
  | start
  | final
  deriving DecidableEq, Repr

/-- Where notes outside the keyboard go in a chord. -/
inductive OutOfRangePlacement where
  | start
  | final
  /-- Low ones first, high ones last. -/
  | inOrder
  deriving DecidableEq, Repr

inductive LineBreaks where
  | never
  | manually
  deriving DecidableEq, Repr

structure Settings where
  resilience : UInt8 := 2
  placeShifted : ShiftedPlacement := .start
  placeOutOfRange : OutOfRangePlacement := .inOrder
  breakLines : LineBreaks := .manually
  breakEvery : UInt8 := 4
  quantize : UInt16 := 35
  classicChordOrder : Bool := true
  sequentialQuantizes : Bool := false
  bracesForQuantized : Bool := false
  includeOutOfRange : Bool := true
  showTempoMarks : Bool := true
  showOutOfRangeMarks : Bool := true
  outOfRangeSeparator : String := ":"
  showBpmComments : Bool := true
  autoTranspose : Bool := true
  multiTranspose : Bool := false
  /-- Fields of other clients, sorted by name. -/
  extra : Json.Fields := []
  deriving Repr, Inhabited

/-- The settings for one request: as they are, but for the transposition. -/
def Settings.forMode (s : Settings) (mode : TransposeMode) : Settings :=
  { s with multiTranspose := mode = .multi }

end KeySheet
