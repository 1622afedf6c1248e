import KeySheet.Settings.Field

/-! The dialog that edits a draft of the settings. -/
namespace KeySheet.Desk

structure SettingsDialog where
  isOpen : Bool := false
  /-- A row, as a place in the list of fields. -/
  selected : Nat := 0
  draft : Settings := {}
  deriving Repr

namespace SettingsDialog

/-- The dialog as it opens: on the first row, with a copy of the settings. -/
def start (settings : Settings) : SettingsDialog := ⟨true, 0, settings⟩

def selectPrev (d : SettingsDialog) : SettingsDialog := { d with selected := d.selected - 1 }

def selectNext (d : SettingsDialog) : SettingsDialog :=
  if d.selected + 1 < Settings.Field.all.length then { d with selected := d.selected + 1 } else d

/-- Moves the selected row by one. -/
def step (d : SettingsDialog) (forwards : Bool) : SettingsDialog :=
  match Settings.Field.all[d.selected]? with
  | some field => { d with draft := field.step forwards d.draft }
  | none => d

/-- Standard settings, but for the fields of other clients. -/
def restore (d : SettingsDialog) : SettingsDialog :=
  { d with draft := { extra := d.draft.extra } }

end SettingsDialog

end KeySheet.Desk
