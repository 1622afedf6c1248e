import KeySheet.Desk.Basic
import KeySheet.Screen.Paragraph

/-! The first rows of the screen, and the last one: the converter, the device and the notice; and
the keys that the focused panel knows. -/
namespace KeySheet.Screen

def label (text : String) : Run := run text Color.darkGray.style

def keyName (text : String) : Run := run text Color.yellow.style

/-- Keys in turn with what they do. -/
def hints (keys : List (String × String)) : Line :=
  keys.flatMap (fun k => [keyName k.1, label k.2])

def deviceText : Media.Device → String
  | .cuda => "CUDA"
  | .cpu => "CPU"

def onlineMark : Option Bool → Run
  | some true => run "[online]" Color.green.style
  | some false => run "[offline]" Color.red.style
  | none => run "[...]" Color.darkGray.style

def serverLine (d : Desk) : Line :=
  [label "Server: ", run d.server Color.white.style, run " ", onlineMark d.online]

def deviceLine (d : Desk) : Line :=
  [label "Device: ", run (deviceText d.device) Color.cyan.style.bold]

/-- The columns of the device, between two equal parts for the server and the notice. -/
def deviceColumns : Nat := 14

namespace Canvas

def drawHeader (c : Canvas) (a : Area) (d : Desk) : Canvas :=
  let inner := a.inner
  let side := (inner.width - deviceColumns) / 2
  let c := c.drawBorder a " sheettui " Color.gray.style
  let c := c.drawParagraph (inner.columns 0 side) [serverLine d]
  let c := c.drawParagraph (inner.columns side deviceColumns) [deviceLine d]
  match d.notice with
  | none => c
  | some n =>
      c.drawParagraph (inner.columns (side + deviceColumns) side) [[run n.text Color.yellow.style]]
        .right

/-- The keys of the last row. -/
def drawHints (c : Canvas) (a : Area) (d : Desk) : Canvas :=
  let own := match d.focus with
    | .input =>
        [("[Enter]", if d.controller.isRunning then " Stop  " else " Convert  "),
          ("[Ctrl+D]", " Device  ")]
    | .history => [("[Enter]", " Open sheet  "), ("[d]", " Delete  "), ("[o]", " Upload MIDI  ")]
    | .viewer => [("[m]", " Transpose mode  "), ("[s]", " Save  "), ("[e]", " Export HTML  ")]
  c.drawParagraph a
    [hints (("[Tab]", " Focus  ") :: own ++ [("[F2]", " Settings  "), ("[F1]", " Help")])]

end Canvas

end KeySheet.Screen
