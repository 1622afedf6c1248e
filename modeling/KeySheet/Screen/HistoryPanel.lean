import KeySheet.Screen.ConvertPanel

/-! The panel of the conversions of the past. -/
namespace KeySheet.Screen

def kindColor : Media.Kind → Color
  | .youtube => .red
  | .tiktok => .magenta
  | .discord => .blue
  | .mp3 => .green

/-- The title of a row is reversed when the row is highlighted and has the keys. -/
def entryLine (e : Media.Entry) (selected : Bool) : Line :=
  let title := Color.white.style
  [run (padTo 8 e.result.kind.badge) (kindColor e.result.kind).style,
    run e.result.title (if selected then title.reversed else title)] ++
    (e.timeText.toList.map (fun t => label ("  " ++ t))) ++
    (e.result.conversionTime.toList.map (fun s => label ("  " ++ Decimal.showFixed 1 s ++ "s")))

/-- The rows on the screen, from the scroll on. -/
def historyLines (h : History) (rows : Nat) (focused : Bool) : List Line :=
  ((h.entries.drop h.scroll).take rows).zipIdx.map
    (fun (e, i) => entryLine e (focused && h.scroll + i == h.selected))

namespace Canvas

def drawHistoryPanel (c : Canvas) (a : Area) (d : Desk) : Canvas :=
  let focused := d.focus = .history
  let inner := a.inner
  let title := " History (" ++ Text.showNat d.history.entries.length ++ ") "
  let c := c.drawBorder a title (borderStyle focused)
  if d.history.entries.isEmpty then
    c.drawParagraph inner [[run "No conversions yet" Color.darkGray.style.italic]]
  else c.drawList inner (historyLines d.history inner.height focused)

end Canvas

end KeySheet.Screen
