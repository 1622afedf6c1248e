import KeySheet.Screen.Dialogs
import KeySheet.Screen.Help
import KeySheet.Screen.HistoryPanel
import KeySheet.Screen.SheetPanel

/-! The whole screen: the header, the link above the history on the left, the sheet on the right,
the keys below, and over it all the panels that are open. -/
namespace KeySheet.Screen

/-- Where the panels are. -/
structure Plan where
  header : Area
  convert : Area
  history : Area
  sheet : Area
  hints : Area
  deriving DecidableEq, Repr

def headerRows : Nat := 3

def convertRows : Nat := 10

/-- The share of the left side, in percent. -/
def leftShare : Nat := 40

def plan (screen : Area) : Plan :=
  let content := (screen.below headerRows).aboveLast
  let (left, right) := content.sideBySide leftShare
  ⟨screen.top headerRows, left.top convertRows, left.below convertRows, right, screen.lastRow⟩

/-- The desk as it is drawn. -/
def render (d : Desk) (files : Files.Tree) (width height : Nat) : Canvas :=
  let p := plan ⟨0, 0, width, height⟩
  let c := (((((Canvas.blank width height).drawHeader p.header d).drawConvertPanel p.convert
    d).drawHistoryPanel p.history d).drawSheetPanel p.sheet d).drawHints p.hints d
  let c := (c.drawBrowser files d.browser).drawSettings d.settings d.dialog
  (if d.helpShown then c.drawHelp d.helpScroll else c).drawAlert d.alert

end KeySheet.Screen

namespace KeySheet.Desk

/-- Learns how many rows of the history and of an open sheet there is room for. -/
def resize (d : Desk) (width height : Nat) : Desk :=
  let p := Screen.plan ⟨0, 0, width, height⟩
  let rows := (Screen.sheetBody p.sheet).height
  { d with
    historyRows := p.history.inner.height
    viewer := if d.viewer.isOpen then { d.viewer with visibleRows := rows } else d.viewer }

end KeySheet.Desk
