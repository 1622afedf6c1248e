import KeySheet.Text.Integer

/-! Why a call to the converter fails, and the words for it. -/
namespace KeySheet.Backend

inductive Failure where
  /-- No answer came at all. -/
  | transport (text : String)
  /-- An answer with a status outside the successful ones. -/
  | status (code : Nat) (text : String)
  /-- The body was not the expected document. -/
  | decode (text : String)
  /-- A successful status, but the operation is reported as failed. -/
  | rejected (text : String)
  /-- A local file could not be read. -/
  | file (text : String)
  deriving DecidableEq, Repr

namespace Failure

/-- The full description, for the log and the command line. -/
def message : Failure → String
  | transport text => "could not reach backend: " ++ text
  | status code text => "backend returned " ++ Text.showNat code ++ ": " ++ text
  | decode text => "unexpected response: " ++ text
  | rejected text => text
  | file text => "I/O error: " ++ text

/-- What the user is shown: the converter's own words where there are any. -/
def userMessage : Failure → String
  | status _ text => text
  | other => other.message

end Failure

end KeySheet.Backend
