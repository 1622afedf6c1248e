import KeySheet.CommandLine.Run

/-! The program: the commands on this machine. -/
namespace KeySheet.Main

open CommandLine (Host)

/-- The failure of a call of the system. -/
def failureOf (e : IO.Error) : Files.Failure :=
  match e with
  | .noFileOrDirectory _ _ _ => .notFound
  | .inappropriateType _ _ _ => .isDirectory
  | .permissionDenied _ _ _ => .other "Permission denied (os error 13)"
  | other => .other (toString other)

def attempt {α : Type} (act : IO α) : IO (Except Files.Failure α) := do
  try return .ok (← act)
  catch e => return .error (failureOf e)

def readAll (path : List Char) : IO (List UInt8) := do
  return (← IO.FS.readBinFile (String.ofList path)).toList

/-- This machine, without a way to the network and without a screen of its own. -/
def host : Host IO where
  transport := {
    send := fun _ _ => return .error "no network transport"
    read := fun path => attempt (readAll path) }
  now := IO.monoMsNow
  sleep n := IO.sleep (UInt32.ofNat n)
  create path := attempt (IO.FS.writeFile (String.ofList path) "")
  input := do return (← (← IO.getStdin).readBinToEnd).toList
  print text := IO.print text
  printError text := IO.eprint text
  interact _ := do
    IO.eprint "Error: Failed to setup terminal\n"
    return 1

end KeySheet.Main

def main (args : List String) : IO UInt32 := do
  let server ← IO.getEnv KeySheet.CommandLine.serverVariable
  KeySheet.CommandLine.run KeySheet.Main.host "sheettui" server args
