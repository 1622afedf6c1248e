import KeySheet.Media.Result
import KeySheet.Proofs.Json.Lookup
import KeySheet.Proofs.Json.Numbers

/-! Results and the entries of the history as documents. Every field is written, and all of them are
read back; an entry has the fields of its result beside its own. -/
namespace KeySheet.Media

open Json (Fields Number Sound)

section Values

theorem optional_text (o : Option String) :
    Json.optional Json.asText (some (.ofText o)) = some o := by
  cases o <;> rfl

theorem optional_real (o : Option Decimal.Binary64) :
    Json.optional Json.asReal (some (Result.encodeReal o)) = some o := by
  cases o <;> rfl

/-- A reading of choices takes a text as the name that it is. -/
def TakesNames (choice : Json → Option String) : Prop := ∀ s, choice (.string s) = some s

theorem asChoice_takesNames : TakesNames Json.asChoice := fun _ => rfl

theorem asNestedChoice_takesNames : TakesNames Json.asNestedChoice := fun _ => rfl

theorem ofText_sound (o : Option String) (n : Nat) : Sound Number.Fits n (.ofText o) := by
  cases o with
  | none => exact .null
  | some s => exact .string s

theorem encodeReal_sound (o : Option Decimal.Binary64) (n : Nat) :
    Sound Number.Fits n (Result.encodeReal o) := by
  cases o with
  | none => exact .null
  | some x => exact .number trivial

end Values

namespace Result

variable {fs : Fields}

/-- Fields that have those of a result are read as the result, whatever else they have. -/
theorem ofFields_of_lookups {choice : Json → Option String} (takes : TakesNames choice)
    (once : (fs.map (·.1)).Nodup) {r : Result}
    (same : ∀ name ∈ names, Fields.get? name fs = Fields.get? name r.fields) :
    ofFields choice fs = some r := by
  simp only [names, fields, List.forall_mem_cons, Fields.get?_cons, String.reduceEq, if_true,
    if_false] at same
  have kind : Json.optional choice (some (.string r.kind.name)) = some (some r.kind.name) :=
    congrArg (Option.map some) (takes r.kind.name)
  simp only [ofFields, Json.field_eq once, same, kind, optional_text, optional_real,
    Option.bind_eq_bind, Option.bind_some, Option.map_some, Option.getD_some, Kind.ofName_name]
  rfl

theorem fields_once (r : Result) : (r.fields.map (·.1)).Nodup := by
  show names.Nodup
  decide

theorem fields_sound (r : Result) (n : Nat) : ∀ f ∈ r.fields, Sound Number.Fits n f.2 := by
  simp only [fields, List.forall_mem_cons]
  exact ⟨.string _, ofText_sound _ n, ofText_sound _ n, encodeReal_sound _ n, ofText_sound _ n,
    ofText_sound _ n, ofText_sound _ n, ofText_sound _ n, ofText_sound _ n, ofText_sound _ n,
    ofText_sound _ n, nofun⟩

theorem encode_sound (r : Result) (n : Nat) : Sound Number.Fits (n + 1) r.encode :=
  .object (r.fields_sound n)

theorem decode_encode (r : Result) : decode r.encode = some r :=
  ofFields_of_lookups asChoice_takesNames r.fields_once fun _ _ => rfl

/-- What is decoded may be an object in any layout. -/
theorem ofText?_of_parse {text : String} {r : Result} (h : Json.parse text = some r.encode) :
    ofText? text = some r := by
  rw [ofText?, h]
  exact r.decode_encode

end Result

namespace Entry

/-- The fields of an entry of its own. -/
def ownFields (e : Entry) : Fields :=
  [("timestamp", .ofReal e.timestamp), ("time_str", .ofText e.timeText),
    ("mp3_name", .ofText e.mp3Name)]

theorem encode_eq (e : Entry) : e.encode = .object (e.ownFields ++ e.result.fields) := rfl

theorem decode_encode (e : Entry) : decode e.encode = some e := by
  have once : ((e.ownFields ++ e.result.fields).map (·.1)).Nodup := by
    show (["timestamp", "time_str", "mp3_name"] ++ Result.names).Nodup
    decide
  have result : Result.ofFields Json.asNestedChoice (e.ownFields ++ e.result.fields) =
      some e.result := by
    refine Result.ofFields_of_lookups asNestedChoice_takesNames once fun name named => ?_
    have other : name ∉ e.ownFields.map (·.1) := by
      show name ∉ ["timestamp", "time_str", "mp3_name"]
      revert name
      decide
    rw [Fields.get?_append, Fields.get?_absent other, Option.none_or]
  have stamp : Fields.get? "timestamp" (e.ownFields ++ e.result.fields) =
      some (.ofReal e.timestamp) := rfl
  have time : Fields.get? "time_str" (e.ownFields ++ e.result.fields) =
      some (.ofText e.timeText) := rfl
  have mp3 : Fields.get? "mp3_name" (e.ownFields ++ e.result.fields) =
      some (.ofText e.mp3Name) := rfl
  have real : Json.optional Json.asReal (some (.ofReal e.timestamp)) = some (some e.timestamp) :=
    rfl
  simp only [encode_eq, decode, Json.field_eq once, stamp, time, mp3, real, optional_text, result,
    Option.bind_eq_bind, Option.bind_some, Option.getD_some]
  rfl

theorem encode_sound (e : Entry) (n : Nat) : Sound Number.Fits (n + 1) e.encode := by
  rw [encode_eq]
  refine .object (List.forall_mem_append.mpr ⟨?_, e.result.fields_sound n⟩)
  simp only [ownFields, List.forall_mem_cons]
  exact ⟨.number trivial, ofText_sound _ n, ofText_sound _ n, nofun⟩

end Entry

end KeySheet.Media
