import KeySheet.Proofs.Documents.MediaCodec
import KeySheet.Proofs.Documents.SettingsCodec
import KeySheet.Proofs.Json.Grammar

/-! Stored documents. Settings, results and entries of the history are written as texts and read back
as what they were, by whatever prints and reads values so that theirs come back. The settings of
other clients go through with them. -/
namespace KeySheet

open Json (Fields maxDepth)
open Media (Entry Result)

/-- What prints values as texts and reads the values of texts. -/
structure Wire where
  print : Json → String
  read : String → Option Json

namespace Wire

/-- The text of a value is read as the same value. -/
def Keeps (w : Wire) (j : Json) : Prop := w.read (w.print j) = some j

/-- The printer and the reader here. -/
def compact : Wire := ⟨Json.compact, Json.read⟩

theorem compact_keeps {j : Json} (sound : Json.Sound Json.Number.Fits maxDepth j)
    (reals : j.RealsReadBack) : compact.Keeps j :=
  Json.read_compact (sound.readsBack reals)

end Wire

namespace Settings

variable {s : Settings} {doc : Fields}

theorem decode_isObject {doc : Json} (decoded : decode doc = some s) :
    ∃ fields, doc = .object fields := by
  cases doc with
  | object fields => exact ⟨fields, rfl⟩
  | _ => cases decoded

theorem decode_encode_of_decode {doc : Json} (decoded : decode doc = some s) :
    decode s.encode = some s := by
  obtain ⟨fields, rfl⟩ := decode_isObject decoded
  have others := decode_extra decoded
  exact decode_encode others

/-- The text of decoded settings is read as their document. -/
theorem read_encode {doc : Json} (sound : Json.Sound Json.Number.Fits maxDepth doc)
    (decoded : decode doc = some s) (reals : s.encode.RealsReadBack) :
    Json.read s.encode.compact = some s.encode := by
  obtain ⟨fields, rfl⟩ := decode_isObject decoded
  have others := decode_extra decoded
  exact Json.read_compact ((encode_sound others sound).readsBack reals)

theorem load_encode {body : String} (read : Backend.loadSettings.read body = .ok (some s))
    (reals : s.encode.RealsReadBack) :
    Backend.loadSettings.read s.encode.compact = .ok (some s) := by
  obtain ⟨doc, holds⟩ := object_of_load read
  obtain ⟨-, decoded⟩ := (load_iff holds).mp read
  have sound : Json.Sound Json.Number.Fits maxDepth (.object (Json.canonicalFields doc).sort) :=
    (Json.sound_of_read holds).canonical
  have others := decode_extra decoded
  have again := read_encode sound decoded reals
  obtain ⟨fields, encoded, -⟩ := get?_encode s
  rw [encoded] at again ⊢
  exact (load_iff again).mpr
    ⟨sorted_encode_ne_nil others encoded, decode_canonical_encode others encoded⟩

end Settings

/-- What is stored comes back, over any wire that keeps its value. The wire here does as long as the
doubles in it are read back on their own, which not all are. The settings keep the fields of other
clients, and no name is lost, added or doubled. -/
theorem stored_documents_round_trip :
    (∀ w : Wire,
      (∀ text doc s, w.read text = some doc → Settings.decode doc = some s → w.Keeps s.encode →
        (w.read (w.print s.encode)).bind Settings.decode = some s) ∧
      (∀ r : Result, w.Keeps r.encode → (w.read (w.print r.encode)).bind Result.decode = some r) ∧
      ∀ e : Entry, w.Keeps e.encode → (w.read (w.print e.encode)).bind Entry.decode = some e) ∧
    (∀ text doc s, Json.read text = some doc → Settings.decode doc = some s →
      s.encode.RealsReadBack → (Json.read s.encode.compact).bind Settings.decode = some s) ∧
    (∀ body s, Backend.loadSettings.read body = .ok (some s) → s.encode.RealsReadBack →
      Backend.loadSettings.read s.encode.compact = .ok (some s)) ∧
    (∀ r : Result, r.encode.RealsReadBack →
      Result.ofText? r.encode.compact = some r ∧ Result.ofText? r.encode.pretty = some r) ∧
    (∀ e : Entry, e.encode.RealsReadBack →
      (Json.read e.encode.compact).bind Entry.decode = some e) ∧
    ∀ doc s, Settings.decode doc = some s →
      ∃ held fields, doc.canonical = .object held ∧ s.encode = .object fields ∧
        (fields.map (·.1)).Nodup ∧
        (∀ name, name ∈ fields.map (·.1) ↔ name ∈ Settings.names ∨ name ∈ held.map (·.1)) ∧
        ∀ name ∉ Settings.names, Fields.get? name fields = Fields.get? name held := by
  refine ⟨?wires, ?settings, ?loaded, ?result, ?entry, ?fields⟩
  case wires =>
    intro w
    refine ⟨?_, ?_, ?_⟩
    · intro text doc s _ decoded keeps
      rw [keeps, Option.bind_some, Settings.decode_encode_of_decode decoded]
    · intro r keeps
      rw [keeps, Option.bind_some, Result.decode_encode]
    · intro e keeps
      rw [keeps, Option.bind_some, Entry.decode_encode]
  case settings =>
    intro text doc s read decoded reals
    have kept := Settings.read_encode (Json.sound_of_read read) decoded reals
    rw [kept, Option.bind_some, Settings.decode_encode_of_decode decoded]
  case loaded =>
    intro body s read reals
    exact Settings.load_encode read reals
  case result =>
    intro r reals
    have sound := (r.encode_sound 0).readsBack reals
    exact ⟨Result.ofText?_of_parse (Json.parse_compact sound),
      Result.ofText?_of_parse (Json.parse_pretty sound)⟩
  case entry =>
    intro e reals
    have sound := (e.encode_sound (maxDepth - 1)).readsBack reals
    rw [Json.read_compact sound, Option.bind_some, Entry.decode_encode]
  case fields =>
    intro doc s decoded
    obtain ⟨doc, rfl⟩ := Settings.decode_isObject decoded
    obtain ⟨fields, encoded, -⟩ := Settings.get?_encode s
    exact ⟨_, fields, rfl, encoded, Settings.encode_holds decoded rfl encoded⟩

/-- Another client's theme, given twice, and two settings of this one. -/
def themedFields : Fields :=
  [("quantize", .ofNat 40), ("theme", .object [("size", .ofReal ⟨4612811918334230528⟩)]),
    ("place_shifted_notes", .string "end"),
    ("theme", .object [("size", .ofReal ⟨4623226492472524800⟩), ("font", .array [.null])])]

def themedText : String :=
  "\x7b\"quantize\":40,\"theme\":\x7b\"size\":2.5\x7d,\"place_shifted_notes\":\"end\"," ++
    "\"theme\":\x7b\"size\":12.5,\"font\":[null]\x7d\x7d"

def themedSettings : Settings :=
  { quantize := 40
    placeShifted := .final
    extra := [("theme", .object
      [("font", .array [.null]), ("size", .ofReal ⟨4623226492472524800⟩)])] }

/-- A video that took twelve and a half seconds. -/
def videoResult : Result :=
  { kind := .youtube, videoTitle := some "A \"title\"", conversionTime := some ⟨4623226492472524800⟩ }

def videoEntry : Entry := { timestamp := ⟨4744917124795858944⟩, result := videoResult }

theorem themedText_holds : Json.read themedText = some (.object themedFields) := by
  have written : (Json.object themedFields).compact = themedText := by decide +kernel
  rw [← written]
  refine Json.read_compact (.of_parts rfl (by decide) ?_)
  decide +kernel

theorem themedText_loads : Backend.loadSettings.read themedText = .ok (some themedSettings) :=
  (Settings.load_iff themedText_holds).mpr ⟨List.cons_ne_nil _ _, rfl⟩

/-- The theme comes through with its last value, and the result with its title and its time. -/
theorem stored_documents_round_trip_themed :
    Json.read themedText = some (.object themedFields) ∧
    Settings.decode (.object themedFields) = some themedSettings ∧
    Backend.loadSettings.read themedText = .ok (some themedSettings) ∧
    themedSettings.encode.RealsReadBack ∧ videoResult.encode.RealsReadBack ∧
    videoEntry.encode.RealsReadBack ∧
    (Json.read themedSettings.encode.compact).bind Settings.decode = some themedSettings ∧
    Backend.loadSettings.read themedSettings.encode.compact = .ok (some themedSettings) ∧
    Result.ofText? videoResult.encode.compact = some videoResult ∧
    Wire.compact.Keeps videoResult.encode ∧
    (Wire.compact.read (Wire.compact.print videoResult.encode)).bind Result.decode =
      some videoResult ∧
    (Json.read videoEntry.encode.compact).bind Entry.decode = some videoEntry ∧
    ∃ fields, themedSettings.encode = .object fields ∧
      Fields.get? "theme" fields = some (.object
        [("font", .array [.null]), ("size", .ofReal ⟨4623226492472524800⟩)]) := by
  have decoded : Settings.decode (.object themedFields) = some themedSettings := rfl
  have themed : ∀ x ∈ themedSettings.encode.numbers, x.ReadsBack := by decide +kernel
  have result : ∀ x ∈ videoResult.encode.numbers, x.ReadsBack := by decide +kernel
  have entry : ∀ x ∈ videoEntry.encode.numbers, x.ReadsBack := by decide +kernel
  have keeps : Wire.compact.Keeps videoResult.encode :=
    Wire.compact_keeps (videoResult.encode_sound (maxDepth - 1)) fun x member => result _ member
  obtain ⟨wires, settings, loads, results, entries, fields⟩ := stored_documents_round_trip
  obtain ⟨held, fields, holds, encoded, -, -, others⟩ := fields _ _ decoded
  cases holds
  exact ⟨themedText_holds, decoded, themedText_loads, fun x member => themed _ member,
    fun x member => result _ member, fun x member => entry _ member,
    settings _ _ _ themedText_holds decoded fun x member => themed _ member,
    loads _ _ themedText_loads fun x member => themed _ member,
    (results _ fun x member => result _ member).1, keeps, (wires .compact).2.1 _ keeps,
    entries _ fun x member => entry _ member, fields, encoded, others "theme" (by decide)⟩

end KeySheet
