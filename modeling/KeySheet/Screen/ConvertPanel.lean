import KeySheet.Screen.Header

/-! The panel of the link: what was typed, where it leads, the buttons, the progress, and the last
result. -/
namespace KeySheet.Screen

/-- The border of a panel shows whether the keys go to it. -/
def borderStyle (focused : Bool) : Style := if focused then Color.cyan.style else Color.gray.style

/-- A link that is too long shows its end; one column is kept for the cursor. -/
def urlLine (width : Nat) (url : String) (focused : Bool) : Line :=
  let room := width - 6
  let cs := url.toList
  [label "URL: ", ⟨cs.drop (cs.length - room), Color.white.style⟩] ++
    (if focused then
      [run "_" { fg := some .cyan, emphasis := { slowBlink := true } }]
    else [])

def sourceRun (url : String) : Run :=
  if (Text.trim url.toList).isEmpty then label "Paste a YouTube, TikTok or Discord link"
  else match Media.Kind.detect url.toList with
    | some kind => run ("Source: " ++ kind.badge) Color.green.style
    | none => run "Unrecognised link" Color.red.style

def buttonStyle (b : Conversion.Buttons) (i : Conversion.Button) : Style :=
  if b.isDisabled i then Color.darkGray.style
  else match b.mode i with
    | .idle => Style.bold { fg := some .black, bg := some .green }
    | .converting => Style.bold { fg := some .white, bg := some .red }
    | .stopping => { fg := some .black, bg := some .yellow }

def buttonRun (b : Conversion.Buttons) (i : Conversion.Button) : Run :=
  run (" " ++ b.label i ++ " ") (buttonStyle b i)

def buttonsLine (b : Conversion.Buttons) : Line :=
  [buttonRun b .link, run "  ", buttonRun b .mp3]

def midiLine (midi : String) : Line :=
  [label "MIDI: ", run midi Color.magenta.style, keyName "  [v]", label " View sheet"]

def downloadLine (url : String) : Line := [label "Download: ", run url Color.blue.style]

/-- The title, and what else there is. -/
def resultLines (r : Media.Result) : List Line :=
  [run ("[" ++ r.kind.badge ++ "] ") Color.magenta.style, run r.title Color.white.style.bold] ::
    r.midiName.toList.map midiLine ++ r.downloadUrl.toList.map downloadLine

namespace Canvas

def drawConvertPanel (c : Canvas) (a : Area) (d : Desk) : Canvas :=
  let focused := d.focus = .input
  let inner := a.inner
  let c := c.drawBorder a " Convert " (borderStyle focused)
  let c := c.drawParagraph (inner.row 0) [urlLine inner.width d.url focused]
  let c := c.drawParagraph (inner.row 1) [[sourceRun d.url]]
  let c := c.drawParagraph (inner.row 2) [buttonsLine d.controller.buttons]
  let gauge := d.controller.gauge
  let c :=
    if gauge.visible then c.drawGauge (inner.row 4) .cyan .black gauge.percent gauge.message else c
  match d.lastResult with
  | some r => c.drawParagraph (inner.below 5) (resultLines r)
  | none => c

end Canvas

end KeySheet.Screen
