import KeySheet.Proofs.Desk.Panels
import KeySheet.Proofs.Desk.SavedSheets
import KeySheet.Proofs.Desk.SheetAnswers
import KeySheet.Proofs.Sheet.Page

/-! What is saved is what is shown. The sheet, its layout and the shifts of its headers are kept one
beside the other; they come together and go together, so that a page made from the layout is a page
of the sheet. The scroll stays within the layout as long as the rows on the screen are the same. -/
namespace KeySheet.Desk

open Files (join)

/-- The layout and the shifts are those of the sheet. -/
structure Viewer.Faithful (v : Viewer) : Prop where
  bare : v.sheet = none → v.layout = [] ∧ v.transposes = []
  loaded : ∀ score, v.sheet = some score →
    v.layout = Sheet.layout score.text.toList ∧ v.transposes = Sheet.transposes score.text.toList

/-- What the viewer shows, and in how many rows. -/
structure SameScore (v w : Viewer) : Prop where
  sheet : w.sheet = v.sheet
  layout : w.layout = v.layout
  transposes : w.transposes = v.transposes
  rows : w.visibleRows = v.visibleRows

/-- A step of the viewer that leaves its rows. -/
structure Keeps (v w : Viewer) : Prop where
  faithful : v.Faithful → w.Faithful
  rows : w.visibleRows = v.visibleRows
  within : v.scroll ≤ v.maxScroll → w.scroll ≤ w.maxScroll

variable {v w : Viewer} {d d' : Desk} {t : Moment}

theorem keeps_refl (v : Viewer) : Keeps v v := ⟨id, rfl, id⟩

theorem Keeps.trans {u : Viewer} (h : Keeps v w) (h' : Keeps w u) : Keeps v u :=
  ⟨h'.faithful ∘ h.faithful, h'.rows.trans h.rows, h'.within ∘ h.within⟩

theorem SameScore.faithful (same : SameScore v w) (faithful : v.Faithful) : w.Faithful := by
  constructor
  · intro none
    rw [same.layout, same.transposes]
    exact faithful.bare (same.sheet.symm.trans none)
  · intro score some
    rw [same.layout, same.transposes]
    exact faithful.loaded score (same.sheet.symm.trans some)

theorem SameScore.keeps (same : SameScore v w) (scroll : w.scroll = v.scroll ∨ w.scroll ≤ v.maxScroll) :
    Keeps v w := by
  refine ⟨same.faithful, same.rows, ?_⟩
  intro within
  have bound : w.maxScroll = v.maxScroll := by
    rw [Viewer.maxScroll, Viewer.maxScroll, same.layout, same.rows]
  rw [bound]
  rcases scroll with still | moved
  · exact still ▸ within
  · exact moved

theorem openOn_keeps (v : Viewer) (midi title : String) : Keeps v (v.openOn midi title) := by
  refine ⟨?_, rfl, fun _ => Nat.zero_le _⟩
  intro _
  exact ⟨fun _ => ⟨rfl, rfl⟩, nofun⟩

/-- A sheet comes with its layout and its shifts; a reason why there is none leaves all of them. -/
theorem receive_keeps (v : Viewer) (midi : String)
    (answer : Except Backend.Failure Sheet.Score) : Keeps v (v.receive midi answer) := by
  unfold Viewer.receive
  split
  · cases answer with
    | ok score =>
        refine ⟨?_, rfl, fun _ => Nat.min_le_right _ _⟩
        intro _
        constructor
        · exact nofun
        · rintro _ ⟨⟩
          exact ⟨rfl, rfl⟩
    | error e => exact SameScore.keeps ⟨rfl, rfl, rfl, rfl⟩ (.inl rfl)
  · exact keeps_refl v

theorem Keeps.requestSheet (h : Keeps v d.viewer) : Keeps v d.requestSheet.viewer := by
  apply h.trans
  unfold Desk.requestSheet
  split
  · exact keeps_refl d.viewer
  · exact SameScore.keeps ⟨rfl, rfl, rfl, rfl⟩ (.inl rfl)

theorem openViewer_keeps (d : Desk) (midi title : String) :
    Keeps d.viewer (d.openViewer midi title).viewer := by
  apply Keeps.requestSheet
  exact openOn_keeps d.viewer midi title

theorem keeps_same (same : w = v) : Keeps v w := by
  rw [same]
  exact keeps_refl v

theorem Deed.keeps (deed : Deed t d d') : Keeps d.viewer d'.viewer := by
  cases deed with
  | glance | draft | highlight | reload | delete | upload => exact keeps_refl d.viewer
  | confirm =>
      fun_cases confirmSettings d
      · exact keeps_refl d.viewer
      · exact Keeps.requestSheet (keeps_refl d.viewer)
      · exact keeps_refl d.viewer
  | view => exact openViewer_keeps d _ _
  | turn shown =>
      rw [toggleMode, if_pos shown]
      apply Keeps.requestSheet
      exact SameScore.keeps ⟨rfl, rfl, rfl, rfl⟩ (.inr (Nat.zero_le _))
  | page scroll => exact SameScore.keeps ⟨rfl, rfl, rfl, rfl⟩ scroll
  | close => exact SameScore.keeps ⟨rfl, rfl, rfl, rfl⟩ (.inl rfl)
  | start => exact keeps_same (unviewed_startConversion d t).viewer
  | stop => exact keeps_same (unviewed_dispatch d t .stop).viewer

theorem Keeps.receive (h : Keeps v d.viewer) (t : Moment) (answer : Backend.Answer) :
    Keeps v (d.receive t answer).viewer := by
  apply h.trans
  fun_cases Desk.receive d t answer
  case case1 | case2 | case3 => exact keeps_same (unviewed_dispatch d t _).viewer
  case case4 midi answer => exact receive_keeps d.viewer midi answer
  case case5 =>
      unfold receiveUpload
      split
      · exact openViewer_keeps d _ _
      · exact keeps_refl d.viewer
  all_goals exact keeps_refl d.viewer

theorem takeUp_keeps (d : Desk) (t : Moment) : Keeps d.viewer (d.after (.take t)).viewer := by
  cases waiting : d.mail.answers with
  | nil =>
      rw [takeUp_idle waiting]
      exact keeps_refl d.viewer
  | cons answer rest =>
      rw [takeUp_oldest waiting]
      apply Keeps.receive
      exact keeps_refl d.viewer

/-- A closed viewer has the rows that it had. -/
theorem resize_viewer (d : Desk) (width height : Nat) :
    ∃ rows, (d.resize width height).viewer = { d.viewer with visibleRows := rows } := by
  unfold resize
  cases d.viewer.isOpen with
  | true => exact ⟨_, rfl⟩
  | false => exact ⟨d.viewer.visibleRows, rfl⟩

/-- Only what draws changes the rows, and it changes nothing else. -/
theorem befall_keeps (d : Desk) (happening : Happening) :
    Keeps d.viewer (d.befall happening).viewer ∨
      ∃ rows, (d.befall happening).viewer = { d.viewer with visibleRows := rows } := by
  cases happening with
  | rows history viewer => exact .inr ⟨viewer, rfl⟩
  | move m =>
      cases m with
      | press t files p => exact .inl (press_deed d t files p).keeps
      | serve service =>
          obtain ⟨mail, same⟩ := serve_mail d service
          have viewer : (d.after (.serve service)).viewer = d.viewer := by rw [same]
          exact .inl (keeps_same viewer)
      | take t => exact .inl (takeUp_keeps d t)
      | tick t => exact .inl (keeps_same (unviewed_dispatch d t .tick).viewer)
      | expire now =>
          obtain ⟨notice, same⟩ := Ledger.expireNotice_eq d now
          have viewer : (d.expireNotice now).viewer = d.viewer := by rw [same]
          exact .inl (keeps_same viewer)
      | draw width height => exact .inr (resize_viewer d width height)

theorem Viewer.Faithful.foldl_befall (faithful : d.viewer.Faithful) (happenings : List Happening) :
    (happenings.foldl befall d).viewer.Faithful := by
  induction happenings generalizing d with
  | nil => exact faithful
  | cons first rest ih =>
      apply ih
      rcases befall_keeps d first with kept | ⟨rows, same⟩
      · exact kept.faithful faithful
      · rw [same]
        exact ⟨faithful.bare, faithful.loaded⟩

/-- While the rows are the same, the scroll stays where it can be. -/
theorem within_foldl_befall (within : d.viewer.scroll ≤ d.viewer.maxScroll)
    (happenings : List Happening)
    (steady : ∀ seen, seen <+: happenings →
      (seen.foldl befall d).viewer.visibleRows = d.viewer.visibleRows) :
    (happenings.foldl befall d).viewer.scroll ≤ (happenings.foldl befall d).viewer.maxScroll := by
  induction happenings generalizing d with
  | nil => exact within
  | cons first rest ih =>
      have rows : (d.befall first).viewer.visibleRows = d.viewer.visibleRows :=
        steady [first] ⟨rest, rfl⟩
      apply ih
      · rcases befall_keeps d first with kept | ⟨_, same⟩
        · exact kept.within within
        · rw [same] at rows ⊢
          obtain rfl : _ = d.viewer.visibleRows := rows
          exact within
      · intro seen ahead
        rw [rows]
        exact steady (first :: seen) (List.prefix_cons_inj first |>.mpr ahead)

/-! ## What is written -/

theorem report_files (d : Desk) (t : Moment) (files : Files.Tree) (done failed : String)
    (result : Except SaveError (List Char × Files.Tree)) :
    (d.report t files done failed result).files = files ∨
      ∃ path, result = .ok (path, (d.report t files done failed result).files) := by
  cases result with
  | ok saved => exact .inr ⟨saved.1, rfl⟩
  | error e => exact .inl rfl

theorem viewerKey_files (d : Desk) (t : Moment) (files : Files.Tree) (key : Key) :
    (d.viewerKey t files key).files = files ∨
      ∃ path, d.saveText files (workingPath files) = .ok (path, (d.viewerKey t files key).files) ∨
        d.exportPage files (workingPath files) = .ok (path, (d.viewerKey t files key).files) := by
  unfold viewerKey
  split
  case h_10 =>
      apply (report_files d t files "Saved" "Save" _).imp_right
      rintro ⟨path, written⟩
      exact ⟨path, .inl written⟩
  case h_11 =>
      apply (report_files d t files "Exported" "Export" _).imp_right
      rintro ⟨path, written⟩
      exact ⟨path, .inr written⟩
  all_goals exact .inl rfl

/-- No key writes anything but the text of the sheet and its page. -/
theorem press_files (d : Desk) (t : Moment) (files : Files.Tree) (p : Press) :
    (d.press t files p).files = files ∨
      ∃ path, d.saveText files (workingPath files) = .ok (path, (d.press t files p).files) ∨
        d.exportPage files (workingPath files) = .ok (path, (d.press t files p).files) := by
  unfold press
  -- The keys to leave, one line for each overlay, and the keys of every panel.
  split
  · exact .inl rfl
  split
  · exact .inl rfl
  split
  · exact .inl rfl
  split
  · exact .inl rfl
  split
  · exact .inl rfl
  split
  · exact .inl rfl
  unfold panelKey
  split
  · exact .inl rfl
  · exact .inl rfl
  · exact viewerKey_files d t files p.key

theorem save_bare (d : Desk) (bare : d.viewer.sheet = none) (files : Files.Tree) (dir : List Char) :
    d.saveText files dir = .error .noSheet ∧ d.exportPage files dir = .error .noSheet := by
  constructor
  · rw [saveText, bare]
  · rw [exportPage, bare]

/-- The page of a sheet, with its title in the head and above the sheet. -/
def sheetPage (title text : String) : String :=
  let safe := String.ofList (Sheet.escape title.toList)
  Sheet.pageHead ++ safe ++ Sheet.pageStyle ++ safe ++ "</h3>\n<pre>" ++ Sheet.colorize text ++
    "</pre>\n</body>\n</html>\n"

theorem htmlPage_colorize (title text : String) :
    Sheet.htmlPage title (Sheet.colorize text) = sheetPage title text := by
  rw [Sheet.htmlPage, Sheet.escapeTitle_eq]
  rfl

theorem writeTo_gains {files after : Files.Tree} {path name : List Char} {content : String}
    (saved : writeTo files path content = .ok (name, after)) :
    name = path ∧ files.Gains name (Text.utf8 content) after := by
  obtain ⟨rfl, written⟩ := writeTo_ok saved
  exact ⟨rfl, Files.Tree.write_gains written⟩

theorem save_loaded (d : Desk) (faithful : d.viewer.Faithful) {score : Sheet.Score}
    (loaded : d.viewer.sheet = some score) (files : Files.Tree) (dir : List Char) :
    d.saveText files dir = writeTo files (join dir (d.viewer.textName score)) score.text ∧
      d.exportPage files dir = writeTo files (join dir d.viewer.pageName)
        (sheetPage d.viewer.title score.text) := by
  constructor
  · rw [saveText, loaded]
  · rw [exportPage, loaded, (faithful.loaded score loaded).1, ← htmlPage_colorize]
    rfl

/-- Whatever happens, the layout and the shifts are those of the sheet, and so are the text and the
page that are written: a file that was saved holds the text, and one that was exported holds a page
with the coloured text. Without a sheet there is neither, and nothing is written. From any time at
which the scroll lies within the sheet, as it does at the start, it stays within while the rows are
the same. -/
theorem run_saves_as_shown (server : String) (device : Media.Device) (dir : List Char)
    (happenings : List Happening) :
    let run := fun seen : List Happening => seen.foldl befall (start server device dir)
    let d := run happenings
    (d.viewer.sheet = none → d.viewer.layout = [] ∧ d.viewer.transposes = [] ∧
      (∀ files dir, d.saveText files dir = .error .noSheet ∧
        d.exportPage files dir = .error .noSheet) ∧
      ∀ t files p, (d.press t files p).files = files) ∧
    (∀ score, d.viewer.sheet = some score →
      d.viewer.layout = Sheet.layout score.text.toList ∧
      d.viewer.transposes = Sheet.transposes score.text.toList ∧
      ∀ files dir,
        d.saveText files dir = writeTo files (join dir (d.viewer.textName score)) score.text ∧
        d.exportPage files dir = writeTo files (join dir d.viewer.pageName)
          (Sheet.htmlPage d.viewer.title (Sheet.colorize score.text)) ∧
        (∀ path after, d.saveText files dir = .ok (path, after) →
          path = join dir (d.viewer.textName score) ∧
          files.Gains path (Text.utf8 score.text) after) ∧
        ∀ path after, d.exportPage files dir = .ok (path, after) →
          path = join dir d.viewer.pageName ∧
          files.Gains path (Text.utf8 (sheetPage d.viewer.title score.text)) after) ∧
    ((run []).viewer.scroll = 0 ∧
      ∀ earlier later, happenings = earlier ++ later →
        (run earlier).viewer.scroll ≤ (run earlier).viewer.maxScroll →
        (∀ seen, seen <+: later →
          (run (earlier ++ seen)).viewer.visibleRows = (run earlier).viewer.visibleRows) →
        d.viewer.scroll ≤ min d.viewer.layout.length 65535 - max d.viewer.visibleRows 1) := by
  intro run d
  have fresh : (start server device dir).viewer.Faithful := ⟨fun _ => ⟨rfl, rfl⟩, nofun⟩
  have faithful : d.viewer.Faithful := fresh.foldl_befall happenings
  refine ⟨?_, ?_, rfl, ?_⟩
  · intro bare
    obtain ⟨layout, transposes⟩ := faithful.bare bare
    refine ⟨layout, transposes, save_bare d bare, ?_⟩
    intro t files p
    obtain ⟨noText, noPage⟩ := save_bare d bare files (workingPath files)
    rcases press_files d t files p with same | ⟨path, text | page⟩
    · exact same
    · cases noText.symm.trans text
    · cases noPage.symm.trans page
  · intro score loaded
    obtain ⟨layout, transposes⟩ := faithful.loaded score loaded
    refine ⟨layout, transposes, ?_⟩
    intro files dir
    obtain ⟨text, page⟩ := save_loaded d faithful loaded files dir
    refine ⟨text, page.trans (by rw [htmlPage_colorize]), ?_, ?_⟩
    · intro path after saved
      exact writeTo_gains (text.symm.trans saved)
    · intro path after saved
      exact writeTo_gains (page.symm.trans saved)
  · rintro earlier later rfl within steady
    have onward (more : List Happening) : run (earlier ++ more) = more.foldl befall (run earlier) :=
      List.foldl_append
    show (run (earlier ++ later)).viewer.scroll ≤ (run (earlier ++ later)).viewer.maxScroll
    rw [onward]
    apply within_foldl_befall within
    intro seen ahead
    rw [← onward]
    exact steady seen ahead

/-- The song of the history is opened and its sheet comes; then it is saved and exported. -/
theorem run_saves_opened_song :
    let d := ((Ledger.openMoves ++ Ledger.comeMoves).map .move).foldl befall (start "s" .cuda ['/'])
    d.viewer.sheet = some Ledger.score ∧
    (∃ after, d.saveText drawer ['d'] = .ok ("d/a_sheets.txt".toList, after) ∧
      drawer.Gains "d/a_sheets.txt".toList (Text.utf8 "a b") after) ∧
    ∃ after, d.exportPage drawer ['d'] = .ok ("d/a_sheets.html".toList, after) ∧
      drawer.Gains "d/a_sheets.html".toList (Text.utf8 (sheetPage d.viewer.title "a b")) after := by
  intro d
  have loaded : d.viewer.sheet = some Ledger.score := rfl
  obtain ⟨-, shown, -⟩ := run_saves_as_shown "s" .cuda ['/']
    ((Ledger.openMoves ++ Ledger.comeMoves).map .move)
  obtain ⟨-, -, writes⟩ := shown Ledger.score loaded
  obtain ⟨-, -, text, page⟩ := writes drawer ['d']
  exact ⟨loaded, ⟨_, rfl, (text _ _ rfl).2⟩, ⟨_, rfl, (page _ _ rfl).2⟩⟩

end KeySheet.Desk
