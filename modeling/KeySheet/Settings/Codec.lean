import KeySheet.Json.Decode
import KeySheet.Settings.Basic

/-! Settings as documents. Every named field may be left out but none may be null; all that is not
named goes to `extra` and comes back from there. -/
namespace KeySheet.Settings

open Json (Fields)

/-- The named fields, in order. -/
def names : List String :=
  ["resilience", "place_shifted_notes", "place_out_of_range_notes", "break_lines_how",
    "break_lines_every", "quantize", "classic_chord_order", "sequential_quantizes",
    "curly_braces_for_quantized_chords", "include_out_of_range", "show_tempo_timing_marks",
    "show_out_of_range_text_marks", "out_of_range_separator", "show_bpm_changes_as_comments",
    "auto_transpose", "multi_transpose"]

def shiftedName : ShiftedPlacement → String
  | .start => "start"
  | .final => "end"

/-- A word that is not known means the start. -/
def shiftedOfName (s : String) : ShiftedPlacement := if s = "end" then .final else .start

def outOfRangeName : OutOfRangePlacement → String
  | .start => "start"
  | .final => "end"
  | .inOrder => "inorder"

/-- A word that is not known means in order. -/
def outOfRangeOfName (s : String) : OutOfRangePlacement :=
  if s = "start" then .start else if s = "end" then .final else .inOrder

def breaksName : LineBreaks → String
  | .never => "never"
  | .manually => "manually"

/-- A word that is not known means manually. -/
def breaksOfName (s : String) : LineBreaks := if s = "never" then .never else .manually

/-- The named fields in order, then the others. -/
def encode (s : Settings) : Json :=
  .object ([
    ("resilience", .ofNat s.resilience.toNat),
    ("place_shifted_notes", .string (shiftedName s.placeShifted)),
    ("place_out_of_range_notes", .string (outOfRangeName s.placeOutOfRange)),
    ("break_lines_how", .string (breaksName s.breakLines)),
    ("break_lines_every", .ofNat s.breakEvery.toNat),
    ("quantize", .ofNat s.quantize.toNat),
    ("classic_chord_order", .bool s.classicChordOrder),
    ("sequential_quantizes", .bool s.sequentialQuantizes),
    ("curly_braces_for_quantized_chords", .bool s.bracesForQuantized),
    ("include_out_of_range", .bool s.includeOutOfRange),
    ("show_tempo_timing_marks", .bool s.showTempoMarks),
    ("show_out_of_range_text_marks", .bool s.showOutOfRangeMarks),
    ("out_of_range_separator", .string s.outOfRangeSeparator),
    ("show_bpm_changes_as_comments", .bool s.showBpmComments),
    ("auto_transpose", .bool s.autoTranspose),
    ("multi_transpose", .bool s.multiTranspose)] ++ s.extra)

/-- The fields without a name of their own, sorted, the last of each name. -/
def extraOf (fields : Fields) : Fields :=
  Json.Fields.sort (Json.canonicalFields (fields.filter (fun f => !names.contains f.1)))

def decode : Json → Option Settings
  | .object fs => do
      let standard : Settings := {}
      let byte := Json.asNatUpTo 255
      let resilience ← Json.field fs "resilience" (Json.orElse standard.resilience.toNat byte)
      let shifted ← Json.field fs "place_shifted_notes"
        (Json.orElse standard.placeShifted (fun j => (Json.asChoice j).map shiftedOfName))
      let outOfRange ← Json.field fs "place_out_of_range_notes"
        (Json.orElse standard.placeOutOfRange (fun j => (Json.asChoice j).map outOfRangeOfName))
      let breaks ← Json.field fs "break_lines_how"
        (Json.orElse standard.breakLines (fun j => (Json.asChoice j).map breaksOfName))
      let every ← Json.field fs "break_lines_every" (Json.orElse standard.breakEvery.toNat byte)
      let quantize ← Json.field fs "quantize"
        (Json.orElse standard.quantize.toNat (Json.asNatUpTo 65535))
      let switch (name : String) (default : Bool) :=
        Json.field fs name (Json.orElse default Json.asBool)
      return {
        resilience := UInt8.ofNat resilience
        placeShifted := shifted
        placeOutOfRange := outOfRange
        breakLines := breaks
        breakEvery := UInt8.ofNat every
        quantize := UInt16.ofNat quantize
        classicChordOrder := ← switch "classic_chord_order" standard.classicChordOrder
        sequentialQuantizes := ← switch "sequential_quantizes" standard.sequentialQuantizes
        bracesForQuantized := ←
          switch "curly_braces_for_quantized_chords" standard.bracesForQuantized
        includeOutOfRange := ← switch "include_out_of_range" standard.includeOutOfRange
        showTempoMarks := ← switch "show_tempo_timing_marks" standard.showTempoMarks
        showOutOfRangeMarks := ← switch "show_out_of_range_text_marks" standard.showOutOfRangeMarks
        outOfRangeSeparator := ←
          Json.field fs "out_of_range_separator"
            (Json.orElse standard.outOfRangeSeparator Json.asText)
        showBpmComments := ← switch "show_bpm_changes_as_comments" standard.showBpmComments
        autoTranspose := ← switch "auto_transpose" standard.autoTranspose
        multiTranspose := ← switch "multi_transpose" standard.multiTranspose
        extra := extraOf fs }
  | _ => none

/-- Equality of settings, the fields of other clients included. -/
def same (a b : Settings) : Bool := a.encode.same b.encode

end KeySheet.Settings
