import KeySheet.Backend.Address
import KeySheet.Backend.Failure
import KeySheet.Backend.Multipart
import KeySheet.Conversion.Controller
import KeySheet.Files.Tree
import KeySheet.Json.Writer
import KeySheet.Settings.Codec
import KeySheet.Sheet.Layout
import KeySheet.Text.Blank

/-! The calls to the converter, as exchanges: what is sent, and how the body of the answer is read.
A call fails by its own words where the converter gives any. -/
namespace KeySheet.Backend

inductive Method where
  | get
  | post
  deriving DecidableEq, Repr

structure Request where
  method : Method
  /-- Behind the address of the converter. -/
  path : String
  /-- Joins the query of the address, if that has one. -/
  query : String := ""
  contentType : Option String := none
  body : List UInt8 := []
  deriving Repr

structure Response where
  code : Nat
  body : String
  deriving Repr

/-- A request and the reading of a successful body. -/
structure Exchange (α : Type) where
  request : Request
  read : String → Except Failure α

/-- The converter's address without slashes at its end. -/
def baseOf (server : String) : String :=
  String.ofList (server.toList.reverse.dropWhile (· == '/')).reverse

/-- The `error` text of a body, where it is a record that has one. -/
def errorText? (body : String) : Option String := do
  let j ← Json.parse body
  let fields ← Json.recordFields ["error"] j
  let text ← Json.field fields "error" (Json.optional Json.asText)
  text

/-- The words of a refusal: the error text, else the body, else the bare code. -/
def refusalText (code : Nat) (body : String) : String :=
  match errorText? body with
  | some text => text
  | none =>
      match Text.trim body.toList with
      | [] => "HTTP " ++ Text.showNat code
      | cs => String.ofList cs

/-- Answers of these codes end with their head; what stands behind it is no body. -/
def isBodiless (code : Nat) : Bool := code == 204 || code == 304

/-- An answer whose code is not of three digits is none. -/
def isCode (code : Nat) : Bool := 100 ≤ code && code ≤ 999

/-- The body of a successful answer; codes from 400 on are refusals. -/
def bodyOf : Except String Response → Except Failure String
  | .error text => .error (.transport text)
  | .ok r =>
      if !isCode r.code then .error (.transport "the code of the answer is not of three digits")
      else if 400 ≤ r.code then .error (.status r.code (refusalText r.code r.body))
      else if isBodiless r.code then .ok ""
      else .ok r.body

/-- Reads a whole answer. -/
def Exchange.finish {α : Type} (e : Exchange α) (answer : Except String Response) :
    Except Failure α := do
  e.read (← bodyOf answer)

/-- Reads a body with a reader that gives no reasons. -/
def document {α : Type} (read : String → Option α) (body : String) : Except Failure α :=
  match read body with
  | some x => .ok x
  | none => .error (.decode "not the expected document")

def anyBody (_ : String) : Except Failure Unit := .ok ()

/-- Any sound document will do. -/
def anyDocument (body : String) : Option Unit := (Json.read body).map (fun _ => ())

def jsonPost (path : String) (j : Json) : Request :=
  { method := .post
    path := path
    contentType := some "application/json"
    body := Text.utf8 j.compact }

/-- The task in the answer to a new conversion. -/
def taskOfText? (body : String) : Option Conversion.TaskId := do
  let j ← Json.parse body
  let fields ← Json.recordFields ["task_id"] j
  Json.field fields "task_id" (Json.required Json.asText)

def createBody (s : Media.Source) : Json :=
  .object [("media_url", .string s.url), ("device", .string s.device.name)]

def createTask (s : Media.Source) : Exchange Conversion.TaskId :=
  ⟨jsonPost "/api/convert" (createBody s), document taskOfText?⟩

def taskStatus (task : Conversion.TaskId) : Exchange Media.StatusReport :=
  ⟨{ method := .get, path := "/api/status/" ++ task },
    document (fun b => (Json.read b).bind Media.StatusReport.decode)⟩

def stopTask (task : Conversion.TaskId) : Exchange Unit :=
  ⟨{ method := .post, path := "/api/stop/" ++ task }, anyBody⟩

/-- The answer to a request for a sheet; without `success` it is a refusal. -/
def scoreOfText (body : String) : Except Failure Sheet.Score := do
  let names := ["success", "sheet_text", "sheets_filename", "error"]
  let parts ← document (fun body => do
    let j ← Json.parse body
    let fields ← Json.recordFields names j
    let success ← Json.field fields "success" (Json.orElse false Json.asBool)
    let text ← Json.field fields "sheet_text" (Json.optional Json.asText)
    let fileName ← Json.field fields "sheets_filename" (Json.optional Json.asText)
    let error ← Json.field fields "error" (Json.optional Json.asText)
    return (success, text, fileName, error)) body
  let (success, text, fileName, error) := parts
  if success then return ⟨text.getD "", fileName⟩
  else throw (.rejected (error.getD "Sheet conversion failed"))

/-- The settings travel with the request, sorted by name. -/
def sheetBody (midi : String) (settings : Settings) : Json :=
  .object [("midi_filename", .string midi), ("settings", settings.encode.canonical)]

def convertToSheets (midi : String) (settings : Settings) : Exchange Sheet.Score :=
  ⟨jsonPost "/api/convert-to-sheets" (sheetBody midi settings), scoreOfText⟩

/-- The name that the converter keeps an uploaded file under. -/
def uploadOfText? (body : String) : Option String := do
  let j ← Json.parse body
  let fields ← Json.recordFields ["midi_filename"] j
  Json.field fields "midi_filename" (Json.required Json.asText)

/-- An upload of content that has been read from a path. -/
def uploadMidi (path : List Char) (content : List UInt8) : Exchange String :=
  let name := String.ofList ((Files.fileName? path).getD "upload.mid".toList)
  let request : Request :=
    { method := .post
      path := "/api/upload-midi"
      contentType := some Multipart.contentType
      body := Multipart.body name content }
  ⟨request, document uploadOfText?⟩

def history (limit : Nat) : Exchange (List Media.Entry) :=
  ⟨{ method := .get, path := "/api/history", query := "limit=" ++ Text.showNat limit },
    document (fun b => (Json.read b).bind Media.Entry.decodeList)⟩

def deleteHistory (timestamp : Decimal.Binary64) : Exchange Unit :=
  ⟨jsonPost "/api/history/delete" (.object [("timestamp", .ofReal timestamp)]),
    document anyDocument⟩

/-- Stored settings; an empty object, or anything else than an object, means that there are
none. -/
def settingsOfText? (body : String) : Option (Option Settings) := do
  let j ← Json.read body
  match j.canonical with
  | .object [] => some none
  | .object fields => (Settings.decode (.object fields)).map some
  | _ => some none

def loadSettings : Exchange (Option Settings) :=
  ⟨{ method := .get, path := "/api/settings" }, document settingsOfText?⟩

def saveSettings (settings : Settings) : Exchange Unit :=
  ⟨jsonPost "/api/settings" settings.encode, document anyDocument⟩

def health : Exchange Unit := ⟨{ method := .get, path := "/api/health" }, anyBody⟩

/-- Where a request to a converter at an address goes. -/
def Request.address? (r : Request) (base : String) : Option Address :=
  Address.ofUrl? (base ++ r.path).toList r.query.toList

end KeySheet.Backend
