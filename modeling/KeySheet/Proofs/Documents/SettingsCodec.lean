import KeySheet.Backend.Exchange
import KeySheet.Proofs.Json.Lookup
import KeySheet.Proofs.Json.Numbers
import KeySheet.Settings.Codec

/-! Settings as documents: what a document of settings has under each name, and that it is decoded
into the settings it was made from. -/
namespace KeySheet.Settings

open Json (Fields)

variable {s : Settings} {fields : Fields} {name : String}

section Extra

/-- Behind the named fields stand the others. -/
theorem get?_encode (s : Settings) :
    ∃ fields, s.encode = .object fields ∧
      ∀ name ∉ names, Fields.get? name fields = Fields.get? name s.extra := by
  refine ⟨_, rfl, ?_⟩
  intro name other
  rw [Fields.get?_append, Fields.get?_absent other, Option.none_or]

theorem decode_extra (h : decode (.object fields) = some s) : s.extra = extraOf fields := by
  -- One reading for each of the named fields; what is read does not matter here.
  iterate 16 obtain ⟨_, -, h⟩ := Option.bind_eq_some_iff.mp h
  cases h
  rfl

theorem get?_extraOf (other : name ∉ names) (fields : Fields) :
    Fields.get? name (extraOf fields) = (Fields.get? name fields.reverse).map Json.canonical := by
  have kept : (!names.contains name) = true := by simpa using other
  rw [extraOf, Fields.get?_sort, Json.canonicalFields_reverse, Json.get?_canonicalFields,
    ← List.filter_reverse]
  exact congrArg _ (Fields.get?_filter (fun name => !names.contains name) kept fields.reverse)

theorem extraOf_ascending (fields : Fields) : (extraOf fields).Ascending :=
  Fields.sort_ascending _

theorem mem_extraOf {f : String × Json} (h : f ∈ extraOf fields) :
    f.1 ∉ names ∧ ∃ g ∈ fields, f.2 = g.2.canonical := by
  rw [extraOf, Json.canonicalFields_eq] at h
  obtain ⟨g, member, rfl⟩ := List.mem_map.mp (Fields.mem_sort h)
  obtain ⟨field, other⟩ := List.mem_filter.mp member
  exact ⟨by simpa using other, g, field, rfl⟩

theorem not_mem_extraOf (named : name ∈ names) (fields : Fields) :
    name ∉ (extraOf fields).map (·.1) := by
  intro member
  obtain ⟨f, field, rfl⟩ := List.mem_map.mp member
  exact (mem_extraOf field).1 named

/-- A canonical document has the same other fields. -/
theorem extraOf_canonical (fields : Fields) :
    extraOf (Json.canonicalFields fields).sort = extraOf fields := by
  refine (extraOf_ascending _).ext (extraOf_ascending _) fun name => ?_
  by_cases named : name ∈ names
  · rw [Fields.get?_absent (not_mem_extraOf named _), Fields.get?_absent (not_mem_extraOf named _)]
  · rw [get?_extraOf named, get?_extraOf named, ← Fields.get?_sort, Fields.sort_sort,
      Fields.get?_sort, Json.canonicalFields_reverse, Json.get?_canonicalFields, Option.map_map]
    exact congrArg (Option.map · _) (funext Json.canonical_canonical)

/-- The named fields stand in front, in their order, and the others behind them. -/
theorem names_encode (encoded : s.encode = .object fields) :
    fields.map (·.1) = names ++ s.extra.map (·.1) := by
  cases encoded
  rw [List.map_append]
  rfl

variable {doc : Fields}

/-- No name stands twice. -/
theorem encode_once (others : s.extra = extraOf doc) (encoded : s.encode = .object fields) :
    (fields.map (·.1)).Nodup := by
  have extra := (extraOf_ascending doc).once
  rw [names_encode encoded, others]
  refine List.Nodup.append (by decide) extra fun name named extra => ?_
  exact not_mem_extraOf named doc extra

theorem extraOf_encode (others : s.extra = extraOf doc) (encoded : s.encode = .object fields) :
    extraOf fields = s.extra := by
  have once := encode_once others encoded
  rw [others]
  refine (extraOf_ascending _).ext (extraOf_ascending _) fun name => ?_
  by_cases named : name ∈ names
  · rw [Fields.get?_absent (not_mem_extraOf named _), Fields.get?_absent (not_mem_extraOf named _)]
  · obtain ⟨_, same, behind⟩ := get?_encode s
    cases encoded.symm.trans same
    rw [get?_extraOf named, Fields.get?_reverse once, behind name named, others, get?_extraOf named,
      Option.map_map]
    exact congrArg (Option.map · _) (funext Json.canonical_canonical)

end Extra

section Named

theorem shiftedOfName_name (x : ShiftedPlacement) : shiftedOfName (shiftedName x) = x := by
  cases x <;> rfl

theorem outOfRangeOfName_name (x : OutOfRangePlacement) :
    outOfRangeOfName (outOfRangeName x) = x := by
  cases x <;> rfl

theorem breaksOfName_name (x : LineBreaks) : breaksOfName (breaksName x) = x := by
  cases x <;> rfl

/-- Fields that have the named settings and the others are decoded, in whatever order they stand. -/
theorem decode_of_lookups (once : (fields.map (·.1)).Nodup) {encoded : Fields}
    (made : s.encode = .object encoded)
    (named : ∀ name ∈ names, Fields.get? name fields = Fields.get? name encoded)
    (others : extraOf fields = s.extra) : decode (.object fields) = some s := by
  cases made
  have byte (n : UInt8) : Json.asNatUpTo 255 (.ofNat n.toNat) = some n.toNat :=
    if_pos (Nat.le_of_lt_succ n.toNat_lt)
  have word (n : UInt16) : Json.asNatUpTo 65535 (.ofNat n.toNat) = some n.toNat :=
    if_pos (Nat.le_of_lt_succ n.toNat_lt)
  simp only [names, List.forall_mem_cons, List.cons_append, Fields.get?_cons, String.reduceEq,
    if_true, if_false] at named
  simp only [decode, Json.field_eq once, named, Json.orElse, byte, word, Json.asChoice,
    Json.asBool, Json.asText, Option.map_some, shiftedOfName_name, outOfRangeOfName_name,
    breaksOfName_name, others, Option.bind_eq_bind, Option.bind_some, UInt8.ofNat_toNat,
    UInt16.ofNat_toNat]
  rfl

/-- The canonical form changes none of the named values. -/
theorem get?_named_canonical (encoded : s.encode = .object fields) :
    ∀ name ∈ names, (Fields.get? name fields).map Json.canonical = Fields.get? name fields := by
  cases encoded
  simp only [names, List.forall_mem_cons, List.cons_append, Fields.get?_cons, String.reduceEq,
    if_true, if_false, Option.map_some]
  exact ⟨rfl, rfl, rfl, rfl, rfl, rfl, rfl, rfl, rfl, rfl, rfl, rfl, rfl, rfl, rfl, rfl, nofun⟩

end Named

section RoundTrip

variable {doc : Fields}

theorem decode_encode (others : s.extra = extraOf doc) : decode s.encode = some s := by
  obtain ⟨fields, encoded, -⟩ := get?_encode s
  rw [encoded]
  exact decode_of_lookups (encode_once others encoded) encoded (fun _ _ => rfl)
    (extraOf_encode others encoded)

theorem get?_named_sorted (others : s.extra = extraOf doc) (encoded : s.encode = .object fields) :
    ∀ name ∈ names,
      Fields.get? name (Json.canonicalFields fields).sort = Fields.get? name fields := by
  intro name named
  rw [Fields.get?_sort, Json.canonicalFields_reverse, Json.get?_canonicalFields,
    Fields.get?_reverse (encode_once others encoded), get?_named_canonical encoded name named]

/-- Sorting the fields makes no difference to what is decoded. -/
theorem decode_canonical_encode (others : s.extra = extraOf doc)
    (encoded : s.encode = .object fields) :
    decode (.object (Json.canonicalFields fields).sort) = some s := by
  refine decode_of_lookups (Fields.sort_ascending _).once encoded
    (get?_named_sorted others encoded) ?_
  rw [extraOf_canonical, extraOf_encode others encoded]

/-- Settings are never written as an empty object, which would mean that there are none. -/
theorem sorted_encode_ne_nil (others : s.extra = extraOf doc)
    (encoded : s.encode = .object fields) : (Json.canonicalFields fields).sort ≠ [] := by
  intro none
  have named : "resilience" ∈ names := List.mem_cons_self
  have member : "resilience" ∈ fields.map (·.1) :=
    names_encode encoded ▸ List.mem_append_left _ named
  obtain ⟨value, found⟩ := Fields.mem_names_iff.mp member
  rw [← get?_named_sorted others encoded "resilience" named, none] at found
  cases found

/-- The document of decoded settings has the named fields and the other fields of the document that
they come from, each once and no more, and the others as they were. -/
theorem encode_holds (decoded : decode (.object doc) = some s) {held : Fields}
    (canonical : (Json.object doc).canonical = .object held) (encoded : s.encode = .object fields) :
    (fields.map (·.1)).Nodup ∧
      (∀ name, name ∈ fields.map (·.1) ↔ name ∈ names ∨ name ∈ held.map (·.1)) ∧
      ∀ name ∉ names, Fields.get? name fields = Fields.get? name held := by
  have others := decode_extra decoded
  have same : ∀ name ∉ names, Fields.get? name fields = Fields.get? name held := by
    intro name other
    obtain ⟨_, again, behind⟩ := get?_encode s
    cases encoded.symm.trans again
    cases canonical
    rw [behind name other, others, get?_extraOf other, Fields.get?_sort,
      Json.canonicalFields_reverse, Json.get?_canonicalFields]
  refine ⟨encode_once others encoded, fun name => ?_, same⟩
  by_cases named : name ∈ names
  · refine iff_of_true ?_ (.inl named)
    rw [names_encode encoded]
    exact List.mem_append_left _ named
  · rw [Fields.mem_names_iff, Fields.mem_names_iff, same name named]
    exact (or_iff_right named).symm

/-- The numbers of the named fields are small, and the others come from the document. -/
theorem encode_sound (others : s.extra = extraOf doc) {n : Nat}
    (sound : Json.Sound Json.Number.Fits (n + 1) (.object doc)) :
    Json.Sound Json.Number.Fits (n + 1) s.encode := by
  have small {k : Nat} (h : k < 2 ^ 16) : Json.Sound Json.Number.Fits n (.ofNat k) :=
    .number ⟨by omega, Int.ofNat_le.mpr (Nat.le_trans (Nat.le_of_lt h) (by decide))⟩
  have byte (k : UInt8) : k.toNat < 2 ^ 16 := Nat.lt_trans k.toNat_lt (by decide)
  cases sound with
  | object sound =>
      refine .object (List.forall_mem_append.mpr ⟨?_, fun f member => ?_⟩)
      · simp only [List.forall_mem_cons]
        exact ⟨small (byte _), .string _, .string _, .string _, small (byte _),
          small s.quantize.toNat_lt, .bool _, .bool _, .bool _, .bool _, .bool _, .bool _,
          .string _, .bool _, .bool _, .bool _, nofun⟩
      · obtain ⟨-, g, field, same⟩ := mem_extraOf (others ▸ member)
        exact same ▸ (sound g field).canonical

end RoundTrip

section Loading

theorem load_iff {body : String} {doc : Fields} (holds : Json.read body = some (.object doc)) :
    Backend.loadSettings.read body = .ok (some s) ↔
      Fields.sort (Json.canonicalFields doc) ≠ [] ∧
        decode (.object (Fields.sort (Json.canonicalFields doc))) = some s := by
  show Backend.document Backend.settingsOfText? body = _ ↔ _
  rw [Backend.document, Backend.settingsOfText?, holds, Option.bind_eq_bind, Option.bind_some,
    Json.canonical]
  cases Fields.sort (Json.canonicalFields doc) with
  | nil => simp
  | cons f rest =>
      dsimp only
      cases decode (.object (f :: rest)) <;> simp

/-- The settings of a body have the fields that it holds, each with its last value. -/
theorem load_extra {body : String} {doc : Fields} (holds : Json.read body = some (.object doc))
    (read : Backend.loadSettings.read body = .ok (some s)) (other : name ∉ names) :
    Fields.get? name s.extra = (Fields.get? name doc.reverse).map Json.canonical := by
  have decoded := ((load_iff holds).mp read).2
  have last (fields : Fields) : Fields.get? name (Fields.sort fields).reverse =
      Fields.get? name fields.reverse := by
    rw [← Fields.get?_sort, Fields.sort_sort, Fields.get?_sort]
  rw [decode_extra decoded, get?_extraOf other, last, Json.canonicalFields_reverse,
    Json.get?_canonicalFields, Option.map_map]
  exact congrArg (Option.map · _) (funext Json.canonical_canonical)

/-- Only an object is taken for settings. -/
theorem object_of_load {body : String} (read : Backend.loadSettings.read body = .ok (some s)) :
    ∃ doc, Json.read body = some (.object doc) := by
  change Backend.document Backend.settingsOfText? body = _ at read
  rw [Backend.document, Backend.settingsOfText?] at read
  cases holds : Json.read body with
  | none => rw [holds] at read; cases read
  | some j =>
      rw [holds, Option.bind_eq_bind, Option.bind_some] at read
      cases j with
      | object doc => exact ⟨doc, rfl⟩
      | _ => cases read

end Loading

end KeySheet.Settings
