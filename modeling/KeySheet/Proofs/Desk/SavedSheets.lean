import KeySheet.Desk.Actions
import KeySheet.Proofs.Files.Joined

/-! Where sheets are saved. The names of the files come from the converter. Of the name of a sheet
only the last part counts, and of that of a MIDI file only the last part without its ending, so
that the file is put into the directory that was asked for. A MIDI name that has no such part is
taken as it is, and its slashes lead elsewhere. -/
namespace KeySheet.Desk

open Files (Component IsName components fileName? join)

/-- The name of the MIDI file has a last part, or is a part itself. -/
def Viewer.HasStem (v : Viewer) : Prop :=
  ∀ midi, v.midi = some midi → '/' ∈ midi.toList → fileName? midi.toList ≠ none

/-- What is written goes directly into the directory, under some name. -/
def Lands (files : Files.Tree) (dir : List Char) (content : String)
    (saved : Except SaveError (List Char × Files.Tree)) : Prop :=
  ∃ name, saved = writeTo files (join dir name) content ∧ IsName name ∧
    components (join dir name) = components dir ++ [.normal name] ∧
    ∀ place path after, files.resolve dir = .ok place → saved = .ok (path, after) →
      path = join dir name ∧ after = files.put (place ++ [name]) (.file (Text.utf8 content))

variable {files after : Files.Tree} {dir name path : List Char} {content : String}

theorem stem_plain_iff (v : Viewer) : '/' ∉ v.stem ↔ v.HasStem := by
  unfold Viewer.stem Viewer.HasStem
  cases v.midi with
  | none => exact iff_of_true (by decide) nofun
  | some midi =>
      dsimp only
      cases named : fileName? midi.toList with
      | some name =>
          have stem : Files.stem? midi.toList = some (Files.splitName name).1 := by
            rw [Files.stem?, named]
            rfl
          rw [stem, Option.getD_some]
          refine iff_of_true (Files.stem_plain stem) ?_
          rintro _ ⟨⟩ -
          simp [named]
      | none =>
          rw [Files.stem?, named, Option.map_none, Option.getD_none]
          constructor
          · rintro plain _ ⟨⟩ slash
            exact absurd slash plain
          · intro h slash
            exact h midi rfl slash named

theorem stem_append_isName (v : Viewer) {ending : List Char} (long : 2 < ending.length)
    (plain : '/' ∉ ending) : IsName (v.stem ++ ending) ↔ v.HasStem := by
  have whole : 2 < (v.stem ++ ending).length := by
    rw [List.length_append]
    omega
  rw [Files.isName_long whole, List.mem_append, not_or, ← stem_plain_iff]
  exact and_iff_left plain

theorem pageName_isName (v : Viewer) : IsName v.pageName ↔ v.HasStem :=
  stem_append_isName v (by decide) (by decide)

theorem textName_isName (v : Viewer) (score : Sheet.Score) :
    IsName (v.textName score) ↔
      (∃ own, score.fileName = some own ∧ fileName? own.toList ≠ none) ∨ v.HasStem := by
  unfold Viewer.textName
  cases score.fileName with
  | none =>
      refine (stem_append_isName v (by decide) (by decide)).trans ?_
      simp
  | some own =>
      cases named : fileName? own.toList with
      | none =>
          simp only [Option.bind_some, named, Option.getD_none]
          refine (stem_append_isName v (by decide) (by decide)).trans ?_
          simp [named]
      | some name =>
          simp only [Option.bind_some, named, Option.getD_some]
          exact iff_of_true (Files.fileName_isName named) (.inl ⟨own, rfl, by simp [named]⟩)

theorem writeTo_lands (named : IsName name) (files : Files.Tree) (dir : List Char)
    (content : String) : Lands files dir content (writeTo files (join dir name) content) := by
  refine ⟨name, rfl, named, Files.components_join named dir, ?_⟩
  intro place path after leads saved
  obtain ⟨rfl, written⟩ := writeTo_ok saved
  exact ⟨rfl, Files.Tree.write_join named leads written⟩

/-- A loaded sheet is saved and exported directly into the directory if the names that the
converter gave have a last part; and only then are the names of the files names at all. -/
theorem saves_land (d : Desk) (files : Files.Tree) (dir : List Char) {score : Sheet.Score}
    (loaded : d.viewer.sheet = some score) :
    (IsName (d.viewer.textName score) → Lands files dir score.text (d.saveText files dir)) ∧
    (IsName d.viewer.pageName → Lands files dir
      (Sheet.htmlPage d.viewer.title (String.ofList (Sheet.layoutMarkup d.viewer.layout)))
      (d.exportPage files dir)) ∧
    (IsName (d.viewer.textName score) ↔
      (∃ own, score.fileName = some own ∧ fileName? own.toList ≠ none) ∨ d.viewer.HasStem) ∧
    (IsName d.viewer.pageName ↔ d.viewer.HasStem) := by
  refine ⟨?_, ?_, textName_isName d.viewer score, pageName_isName d.viewer⟩
  · intro named
    rw [saveText, loaded]
    exact writeTo_lands named files dir score.text
  · intro named
    rw [exportPage, loaded]
    exact writeTo_lands named files dir _

/-- A viewer with the sheet of a MIDI file, and a directory beside it. -/
def sheetOf (midi : String) (fileName : Option String) : Desk :=
  { server := "s"
    browser := { dir := ['/'] }
    viewer := (({} : Viewer).openOn midi "T").receive midi (.ok ⟨"a b", fileName⟩) }

def drawer : Files.Tree := ⟨[([['d']], .directory)], []⟩

theorem saves_land_in_drawer :
    let d := sheetOf "/etc/song.mid" (some "../b.txt")
    d.viewer.sheet = some ⟨"a b", some "../b.txt"⟩ ∧
    Lands drawer ['d'] "a b" (d.saveText drawer ['d']) ∧
    Lands drawer ['d'] (Sheet.htmlPage "T" (String.ofList (Sheet.layoutMarkup d.viewer.layout)))
      (d.exportPage drawer ['d']) := by
  intro d
  have loaded : d.viewer.sheet = some ⟨"a b", some "../b.txt"⟩ := by decide +kernel
  obtain ⟨text, page, textName, pageName⟩ := saves_land d drawer ['d'] loaded
  have stem : d.viewer.HasStem := by
    rintro _ ⟨⟩ -
    decide +kernel
  exact ⟨loaded, text (textName.mpr (.inr stem)), page (pageName.mpr stem)⟩

/-- A MIDI name without a last part is no name of a file: the sheet is saved above the directory. -/
theorem nameless_midi_climbs :
    (sheetOf "../.." none).saveText drawer ['d'] =
      .ok ("d/../.._sheets.txt".toList,
        drawer.put [".._sheets.txt".toList] (.file (Text.utf8 "a b"))) ∧
    components "d/../.._sheets.txt".toList =
      [.normal ['d'], .up, .normal ".._sheets.txt".toList] ∧
    ∀ name, IsName name → join ['d'] name ≠ "d/../.._sheets.txt".toList := by
  have climbs : components "d/../.._sheets.txt".toList =
      [.normal ['d'], .up, .normal ".._sheets.txt".toList] := by decide +kernel
  refine ⟨rfl, climbs, ?_⟩
  intro name named same
  have child := Files.components_join named ['d']
  rw [same, climbs] at child
  have first : components ['d'] = [.normal ['d']] := by decide +kernel
  rw [first] at child
  cases (List.cons.inj child).2

end KeySheet.Desk
