import KeySheet.Screen.Header

/-! The help: every key and what it does. -/
namespace KeySheet.Screen

structure HelpSection where
  title : String
  /-- Keys with what they do. -/
  keys : List (String × String)

def helpSections : List HelpSection :=
  [⟨"General",
      [("F1 / ?", "Toggle this help (? outside the URL input)"),
        ("Ctrl+C / Ctrl+Q", "Quit"),
        ("Tab", "Cycle focus between panels"),
        ("F2", "Sheet settings"),
        ("F5", "Reload history")]⟩,
    ⟨"Convert",
      [("(type)", "Edit the media URL"),
        ("Enter", "Convert link / Stop conversion"),
        ("Esc", "Stop conversion"),
        ("Ctrl+U", "Clear the URL"),
        ("Ctrl+D", "Toggle CUDA / CPU"),
        ("Ctrl+V", "View sheet of last result")]⟩,
    ⟨"History",
      [("k / Up", "Previous entry"),
        ("j / Down", "Next entry"),
        ("Enter", "Open sheet"),
        ("d / Delete", "Delete entry"),
        ("o", "Upload a MIDI file")]⟩,
    ⟨"Sheet Viewer",
      [("k / j", "Scroll line"),
        ("PgUp / PgDn", "Scroll page"),
        ("m", "Toggle auto / multi transpose"),
        ("t", "Show transpose shifts"),
        ("s", "Save sheet text"),
        ("e", "Export coloured HTML"),
        ("Esc", "Close viewer")]⟩]

/-- The columns of the names of keys. -/
def keyColumns : Nat := 17

def keyLine (key : String × String) : Line :=
  [run (padTo keyColumns key.1) Color.cyan.style.bold, run key.2 Color.white.style]

/-- The title, a row for each key, and a blank row. -/
def HelpSection.lines (s : HelpSection) : List Line :=
  [run s.title Color.yellow.style.bold.underlined] :: s.keys.map keyLine ++ [[]]

namespace Canvas

def drawHelp (c : Canvas) (scroll : Nat) : Canvas :=
  let a := c.area.centered 70 80
  let c := (c.clear a).drawBorder a " Help - Keyboard Shortcuts " Color.cyan.style
  let c := c.drawScrolled a.inner.aboveLast scroll (helpSections.flatMap HelpSection.lines)
  c.drawParagraph a.inner.lastRow
    [[run "Scroll: Up/Down/j/k  |  Close: F1/?/Esc" Color.darkGray.style.italic]]

end Canvas

end KeySheet.Screen
