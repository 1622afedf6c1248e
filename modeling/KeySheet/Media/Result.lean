import KeySheet.Json.Decode
import KeySheet.Json.Reader
import KeySheet.Media.Kind

/-! What the converter says about a finished conversion, the status reports that carry it, and the
entries of its history. -/
namespace KeySheet.Media

open Json (Fields)

structure Result where
  kind : Kind := .mp3
  midiName : Option String := none
  downloadUrl : Option String := none
  conversionTime : Option Decimal.Binary64 := none
  videoId : Option String := none
  videoTitle : Option String := none
  thumbnailUrl : Option String := none
  youtubeUrl : Option String := none
  tiktokUrl : Option String := none
  discordUrl : Option String := none
  library : Option String := none
  deriving DecidableEq, Repr, Inhabited

namespace Result

/-- The best title there is: of the video, else the link, else the name of the file. -/
def title (r : Result) : String :=
  (r.videoTitle.or (r.youtubeUrl.or (r.tiktokUrl.or (r.discordUrl.or r.midiName)))).getD "Untitled"

/-- The names of the fields, in order. -/
def names : List String :=
  ["type", "midi_name", "download_url", "conversion_time", "video_id", "video_title",
    "thumbnail_url", "youtube_url", "tiktok_url", "discord_url", "library"]

def encodeReal : Option Decimal.Binary64 → Json
  | none => .null
  | some x => .ofReal x

def fields (r : Result) : Fields :=
  [("type", .string r.kind.name), ("midi_name", .ofText r.midiName),
    ("download_url", .ofText r.downloadUrl), ("conversion_time", encodeReal r.conversionTime),
    ("video_id", .ofText r.videoId), ("video_title", .ofText r.videoTitle),
    ("thumbnail_url", .ofText r.thumbnailUrl), ("youtube_url", .ofText r.youtubeUrl),
    ("tiktok_url", .ofText r.tiktokUrl), ("discord_url", .ofText r.discordUrl),
    ("library", .ofText r.library)]

def encode (r : Result) : Json := .object r.fields

/-- Every field may be null or left out; `choice` reads the name of the kind. -/
def ofFields (choice : Json → Option String) (fs : Fields) : Option Result := do
  let kind ← Json.field fs "type" (Json.optional choice)
  return {
    kind := (kind.map Kind.ofName).getD .mp3
    midiName := ← Json.field fs "midi_name" (Json.optional Json.asText)
    downloadUrl := ← Json.field fs "download_url" (Json.optional Json.asText)
    conversionTime := ← Json.field fs "conversion_time" (Json.optional Json.asReal)
    videoId := ← Json.field fs "video_id" (Json.optional Json.asText)
    videoTitle := ← Json.field fs "video_title" (Json.optional Json.asText)
    thumbnailUrl := ← Json.field fs "thumbnail_url" (Json.optional Json.asText)
    youtubeUrl := ← Json.field fs "youtube_url" (Json.optional Json.asText)
    tiktokUrl := ← Json.field fs "tiktok_url" (Json.optional Json.asText)
    discordUrl := ← Json.field fs "discord_url" (Json.optional Json.asText)
    library := ← Json.field fs "library" (Json.optional Json.asText) }

/-- A result on its own, as an object or by position; names that are not known are passed over
unread. -/
def decode (j : Json) : Option Result := (Json.recordFields names j).bind (ofFields Json.asChoice)

def ofText? (text : String) : Option Result := (Json.parse text).bind decode

end Result

/-- How far a conversion is. -/
inductive Progress where
  | pending
  | processing
  | completed
  | cancelled
  | error
  /-- Any other word: still running. -/
  | other
  deriving DecidableEq, Repr

def Progress.ofName (s : String) : Progress :=
  match s with
  | "pending" => pending
  | "processing" => processing
  | "completed" => completed
  | "cancelled" => cancelled
  | "error" => error
  | _ => other

structure StatusReport where
  status : Progress
  message : Option String := none
  error : Option String := none
  result : Result := {}
  deriving DecidableEq, Repr

/-- Only the status must be there; the result's fields stand beside it. -/
def StatusReport.decode : Json → Option StatusReport
  | .object fs => do
      let status ← Json.field fs "status" (Json.required Json.asChoice)
      return {
        status := Progress.ofName status
        message := ← Json.field fs "progress" (Json.optional Json.asText)
        error := ← Json.field fs "error" (Json.optional Json.asText)
        result := ← Result.ofFields Json.asNestedChoice fs }
  | _ => none

/-- A conversion of the past. Its timestamp, in seconds, is its identity. -/
structure Entry where
  timestamp : Decimal.Binary64
  timeText : Option String := none
  mp3Name : Option String := none
  result : Result
  deriving DecidableEq, Repr

namespace Entry

def encode (e : Entry) : Json :=
  .object (("timestamp", .ofReal e.timestamp) :: ("time_str", .ofText e.timeText) ::
    ("mp3_name", .ofText e.mp3Name) :: e.result.fields)

/-- The entry of a conversion that has just come to its end. -/
def ofResult (timestamp : Decimal.Binary64) (result : Result) : Entry :=
  { timestamp := timestamp, result := result }

/-- A timestamp that is null or left out is zero. -/
def decode : Json → Option Entry
  | .object fs => do
      let timestamp ← Json.field fs "timestamp" (Json.optional Json.asReal)
      return {
        timestamp := timestamp.getD .zero
        timeText := ← Json.field fs "time_str" (Json.optional Json.asText)
        mp3Name := ← Json.field fs "mp3_name" (Json.optional Json.asText)
        result := ← Result.ofFields Json.asNestedChoice fs }
  | _ => none

def decodeList : Json → Option (List Entry)
  | .array items => items.mapM decode
  | _ => none

end Entry

end KeySheet.Media
