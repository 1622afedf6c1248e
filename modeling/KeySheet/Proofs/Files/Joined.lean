import KeySheet.Files.Tree

/-! Names in a directory. A name is a path of one normal component; joined to a directory it is one
step below it, and a file that is written there is put into that directory and nowhere else. -/
namespace KeySheet.Files

/-- The path is one normal component and nothing else. -/
def IsName (name : List Char) : Prop := components name = [.normal name]

variable {dir name piece path : List Char}

theorem stepOf_normal (h : stepOf piece = some (.normal name)) : piece = name := by
  unfold stepOf at h
  split at h
  · cases h
  · cases h
  · cases h
  · exact Component.normal.inj (Option.some.inj h)

theorem stepOf_long (long : 2 < name.length) : stepOf name = some (.normal name) := by
  unfold stepOf
  split
  · exact absurd long (by decide)
  · exact absurd long (by decide)
  · exact absurd long (by decide)
  · rfl

theorem isRooted_false (plain : '/' ∉ name) : isRooted name = false := by
  cases name with
  | nil => rfl
  | cons c rest => simpa [isRooted] using fun same : c = '/' => plain (same ▸ List.mem_cons_self)

theorem isName_iff : IsName name ↔ '/' ∉ name ∧ stepOf name = some (.normal name) := by
  constructor
  · intro h
    unfold IsName components at h
    have steps : (segments name).filterMap stepOf = [.normal name] := by
      split at h
      · cases (List.cons.inj h).1
      · split at h
        · cases (List.cons.inj h).1
        · exact h
    obtain ⟨piece, member, step⟩ := List.mem_filterMap.mp (steps ▸ List.mem_singleton_self _)
    obtain rfl := stepOf_normal step
    exact ⟨Text.not_mem_parts '/' member, step⟩
  · rintro ⟨plain, step⟩
    have whole : segments name = [name] := Text.parts_of_not_mem plain
    have dotted : name ≠ ['.'] := by
      rintro rfl
      cases step
    simp [IsName, components, whole, isRooted_false plain, dotted, step]

theorem isName_long (long : 2 < name.length) : IsName name ↔ '/' ∉ name := by
  rw [isName_iff, stepOf_long long]
  exact and_iff_left rfl

theorem fileName_isName (h : fileName? path = some name) : IsName name := by
  have last : (components path).getLast? = some (.normal name) := by
    unfold fileName? at h
    split at h
    · next shown =>
        cases h
        exact shown
    · cases h
  have member : .normal name ∈ (segments path).filterMap stepOf := by
    have among := List.mem_of_getLast? last
    unfold components at among
    dsimp only at among
    split at among
    · simpa using among
    · split at among
      · simpa using among
      · exact among
  obtain ⟨piece, there, step⟩ := List.mem_filterMap.mp member
  obtain rfl := stepOf_normal step
  exact isName_iff.mpr ⟨Text.not_mem_parts '/' there, step⟩

theorem splitName_starts (name : List Char) : (splitName name).1 <+: name := by
  unfold splitName
  dsimp only
  split
  · exact List.take_prefix _ _
  · exact List.prefix_rfl

theorem stem_plain {stem : List Char} (h : stem? path = some stem) : '/' ∉ stem := by
  obtain ⟨name, named, rfl⟩ := Option.map_eq_some_iff.mp h
  have plain := (isName_iff.mp (fileName_isName named)).1
  intro member
  exact plain ((splitName_starts name).subset member)

/-- Joining puts the name in the place of the empty piece behind a last slash, or adds it. -/
theorem segments_join (plain : '/' ∉ name) (somewhere : dir ≠ []) :
    isRooted (join dir name) = isRooted dir ∧
      ∃ first before silent, segments dir = first :: before ++ silent ∧
        (silent = [] ∨ silent = [[]]) ∧ segments (join dir name) = first :: before ++ [name] := by
  have alone : segments name = [name] := Text.parts_of_not_mem plain
  have pieces (body : List Char) : ∃ first before, segments body = first :: before ∧
      segments (body ++ '/' :: name) = first :: before ++ [name] := by
    obtain ⟨first, before, same⟩ := List.exists_cons_of_ne_nil (Text.parts_ne_nil (· == '/') body)
    refine ⟨first, before, same, ?_⟩
    rw [segments, Text.parts_append, same]
    exact congrArg (first :: before ++ ·) alone
  rcases List.eq_nil_or_concat dir with rfl | ⟨body, last, same⟩
  · exact absurd rfl somewhere
  rw [List.concat_eq_append] at same
  subst same
  by_cases slash : last = '/'
  · subst slash
    have joined : join (body ++ ['/']) name = body ++ '/' :: name := by
      simp [join, isRooted_false plain]
    obtain ⟨first, before, same, with_⟩ := pieces body
    rw [joined]
    refine ⟨?_, first, before, [[]], ?_, .inr rfl, with_⟩
    · cases body <;> rfl
    · rw [segments, Text.parts_append]
      exact congrArg (· ++ [[]]) same
  · have joined : join (body ++ [last]) name = (body ++ [last]) ++ '/' :: name := by
      simp [join, isRooted_false plain]
    obtain ⟨first, before, same, with_⟩ := pieces (body ++ [last])
    rw [joined]
    refine ⟨?_, first, before, [], ?_, .inl rfl, with_⟩
    · cases body <;> rfl
    · rw [same, List.append_nil]

/-- Joined to a directory, a name is one step below it. -/
theorem components_join (named : IsName name) (dir : List Char) :
    components (join dir name) = components dir ++ [.normal name] := by
  obtain ⟨plain, step⟩ := isName_iff.mp named
  by_cases somewhere : dir = []
  · subst somewhere
    have same : join [] name = name := by simp [join, isRooted_false plain]
    rw [same]
    exact named
  · obtain ⟨rooted, first, before, silent, pieces, quiet, joined⟩ := segments_join plain somewhere
    have none : silent.filterMap stepOf = [] := by
      rcases quiet with rfl | rfl <;> rfl
    have steps : (segments (join dir name)).filterMap stepOf =
        (segments dir).filterMap stepOf ++ [.normal name] := by
      rw [joined, pieces, List.filterMap_append, List.filterMap_append, none, List.append_nil]
      simp [step]
    have head : (segments (join dir name)).head? = (segments dir).head? := by rw [joined, pieces]; rfl
    unfold components
    rw [rooted, head, steps]
    dsimp only
    split
    · rfl
    · split <;> rfl

namespace Tree

variable {t after : Tree} {at_ place : Location} {content : Bytes}

/-- A path without the empty pieces at its end. -/
theorem trimmed_starts {pieces named : List (List Char)}
    (same : (pieces.reverse.dropWhile List.isEmpty).reverse = named) : named <+: pieces := by
  rw [← same, ← List.reverse_reverse pieces, List.reverse_prefix, List.reverse_reverse]
  exact List.dropWhile_suffix _

theorem trimmed_last {pieces named : List (List Char)}
    (same : (pieces.reverse.dropWhile List.isEmpty).reverse = named)
    (last : named.getLast? = some name) : name ≠ [] := by
  rw [← same, List.getLast?_reverse] at last
  have filled := List.head?_dropWhile_not List.isEmpty pieces.reverse
  rw [last] at filled
  rintro rfl
  cases filled

theorem walk_append (t : Tree) (at_ : Location) (pieces more : List (List Char)) :
    t.walk at_ (pieces ++ more) = (t.walk at_ pieces).bind (fun place => t.walk place more) := by
  induction pieces generalizing at_ with
  | nil => rfl
  | cons piece rest ih =>
      rw [List.cons_append, walk, walk]
      split
      · rfl
      · rfl
      · split
        · exact ih at_
        split
        · exact ih at_.dropLast
        split
        · rfl
        split
        · exact ih (at_ ++ [piece])
        · rfl

theorem walk_silent {silent : List (List Char)} (quiet : silent = [] ∨ silent = [[]])
    (h : t.walk at_ silent = .ok place) : place = at_ := by
  rcases quiet with rfl | rfl
  · exact (Except.ok.inj h).symm
  · unfold walk at h
    split at h
    · cases h
    · cases h
    · exact (Except.ok.inj h).symm

theorem start_ok {start : Location × List (List Char)} (h : t.start path = .ok start) :
    path ≠ [] ∧ start = (if isRooted path then [] else t.workingDir, segments path) := by
  unfold Tree.start at h
  split at h
  · cases h
  split at h
  · cases h
  · next nonempty =>
      split at h
      · cases h
      · refine ⟨?_, (Except.ok.inj h).symm⟩
        rintro rfl
        exact nonempty rfl

/-- What a write that succeeds has found: a path that ends in a name, behind a directory in which no
directory has this name. -/
theorem write_ok (written : t.write path content = .ok after) :
    ∃ at_ before name place, t.start path = .ok (at_, before ++ [name]) ∧
      t.walk at_ before = .ok place ∧ t.node? place = some .directory ∧
      (name ≠ [] ∧ name ≠ ['.'] ∧ name ≠ ['.', '.'] ∧
        ¬ maxName < (String.ofList name).utf8ByteSize) ∧
      t.node? (place ++ [name]) ≠ some .directory ∧
      after = t.put (place ++ [name]) (.file content) := by
  unfold write at written
  cases starts : t.start path with
  | error e =>
      rw [starts] at written
      cases written
  | ok start =>
      obtain ⟨at_, pieces⟩ := start
      simp only [starts, bind, Except.bind] at written
      generalize same : (pieces.reverse.dropWhile List.isEmpty).reverse = named at written
      cases leads : t.walk at_ named.dropLast with
      | error e =>
          rw [leads] at written
          cases written
      | ok place =>
          simp only [leads] at written
          split at written
          · cases written
          · cases written
          · cases written
          · next here last =>
              split at written
              · cases written
              split at written
              · cases written
              split at written
              · cases written
              · next ends fits free =>
                  simp only [Bool.or_eq_true, decide_eq_true_eq, beq_iff_eq, not_or] at ends free
                  obtain ⟨⟨whole, noDot⟩, noDots⟩ := ends
                  obtain ⟨before, rfl⟩ := List.getLast?_eq_some_iff.mp last
                  rw [List.dropLast_concat] at leads
                  have kept : before ++ [_] = pieces :=
                    (trimmed_starts same).eq_of_length_le (Nat.le_of_not_lt whole)
                  refine ⟨at_, before, _, place, kept ▸ rfl, leads, here, ?_, free,
                    (Except.ok.inj written).symm⟩
                  exact ⟨trimmed_last same last, noDot, noDots, fits⟩

/-- A write to a path that ends in a name puts the file where the pieces before it lead. -/
theorem write_named {before : List (List Char)} (starts : t.start path = .ok (at_, before ++ [name]))
    (leads : t.walk at_ before = .ok place) (written : t.write path content = .ok after) :
    after = t.put (place ++ [name]) (.file content) := by
  obtain ⟨at', before', name', place', starts', leads', -, -, -, rfl⟩ := write_ok written
  obtain ⟨rfl, same⟩ := Prod.mk.inj (Except.ok.inj (starts.symm.trans starts'))
  obtain ⟨rfl, last⟩ := List.append_inj' same rfl
  obtain rfl := List.singleton_inj.mp last
  obtain rfl := Except.ok.inj (leads.symm.trans leads')
  rfl

/-- A file that is written under a name in a directory is put there, and nothing else changes. -/
theorem write_join (named : IsName name) (leads : t.resolve dir = .ok place)
    (written : t.write (join dir name) content = .ok after) :
    after = t.put (place ++ [name]) (.file content) := by
  obtain ⟨plain, step⟩ := isName_iff.mp named
  obtain ⟨start, starts, leads⟩ : ∃ start, t.start dir = .ok start ∧
      t.walk start.1 start.2 = .ok place := by
    unfold resolve at leads
    cases starts : t.start dir with
    | error e => simp [starts, bind, Except.bind] at leads
    | ok start => exact ⟨start, rfl, by simpa [starts, bind, Except.bind] using leads⟩
  obtain ⟨start', starts'⟩ : ∃ start', t.start (join dir name) = .ok start' := by
    cases starts' : t.start (join dir name) with
    | error e => simp [write, starts', bind, Except.bind] at written
    | ok start' => exact ⟨start', rfl⟩
  obtain ⟨somewhere, rfl⟩ := start_ok starts
  obtain ⟨-, rfl⟩ := start_ok starts'
  obtain ⟨rooted, first, before, silent, pieces, quiet, joined⟩ := segments_join plain somewhere
  rw [rooted, joined] at starts'
  rw [pieces, walk_append] at leads
  cases walked : t.walk (if isRooted dir then [] else t.workingDir) (first :: before) with
  | error e =>
      rw [walked] at leads
      cases leads
  | ok there =>
      rw [walked] at leads
      obtain rfl := walk_silent quiet leads
      exact write_named starts' walked written

/-! ## A file read back -/

theorem node?_put (t : Tree) (node : Node) {spot : Location} (below : spot ≠ []) (other : Location) :
    (t.put spot node).node? other = if other = spot then some node else t.node? other := by
  unfold node? put
  by_cases same : other = spot
  · subst same
    have gone : (t.nodes.filter (fun n => n.1 != other)).find? (fun n => n.1 == other) = none := by
      simp [List.find?_eq_none]
    simp [below, List.find?_append, gone]
  · have kept : (fun n : Location × Node => decide (n.1 ≠ spot ∧ (n.1 == other) = true)) =
        fun n => n.1 == other := by
      funext n
      rw [Bool.eq_iff_iff, decide_eq_true_eq, and_iff_right_iff_imp]
      rintro here rfl
      exact same (beq_iff_eq.mp here).symm
    have missed : (spot == other) = false := beq_false_of_ne (Ne.symm same)
    simp only [List.find?_append, List.find?_filter, List.find?_singleton, bne_iff_ne, kept, missed,
      Bool.false_eq_true, if_false, Option.or_none, same]

/-- A walk that ends in a directory starts in one. -/
theorem walk_starts {pieces : List (List Char)} (leads : t.walk at_ pieces = .ok place)
    (ends : t.node? place = some .directory) : t.node? at_ = some .directory := by
  cases pieces with
  | nil => rwa [Except.ok.inj leads]
  | cons piece rest =>
      unfold walk at leads
      split at leads
      · cases leads
      · cases leads
      · next here => exact here

/-- A walk to a directory does not notice what happens to anything else. -/
theorem walk_kept {pieces : List (List Char)}
    (kept : ∀ spot, t.node? spot = some .directory → after.node? spot = some .directory)
    (leads : t.walk at_ pieces = .ok place) (ends : t.node? place = some .directory) :
    after.walk at_ pieces = .ok place := by
  induction pieces generalizing at_ with
  | nil => exact leads
  | cons piece rest ih =>
      have here := walk_starts leads ends
      rw [walk, here] at leads
      rw [walk, kept at_ here]
      dsimp only at leads ⊢
      split
      · next still =>
          rw [if_pos still] at leads
          exact ih leads
      next still =>
      rw [if_neg still] at leads
      split
      · next up =>
          rw [if_pos up] at leads
          exact ih leads
      next up =>
      rw [if_neg up] at leads
      split
      · next long =>
          rw [if_pos long] at leads
          cases leads
      next long =>
      rw [if_neg long] at leads
      split at leads
      · rw [kept _ (walk_starts leads ends)]
        exact ih leads
      · cases leads

/-- After a write: the file is there to be read, at the place that the path leads to, and at every
other place is what was there. -/
def Gains (t : Tree) (path : List Char) (content : Bytes) (after : Tree) : Prop :=
  after.read path = .ok content ∧ after.workingDir = t.workingDir ∧
    ∃ place, after.resolve path = .ok place ∧ ∀ other ≠ place, after.node? other = t.node? other

theorem write_gains (written : t.write path content = .ok after) : t.Gains path content after := by
  obtain ⟨at_, before, name, place, starts, leads, here, ⟨filled, noDot, noDots, fits⟩, free, rfl⟩ :=
    write_ok written
  have below : place ++ [name] ≠ [] := List.append_ne_nil_of_right_ne_nil _ (List.cons_ne_nil _ _)
  have nodes := node?_put t (.file content) below
  have kept (spot : Location) (there : t.node? spot = some .directory) :
      (t.put (place ++ [name]) (.file content)).node? spot = some .directory := by
    rw [nodes, if_neg]
    · exact there
    · rintro rfl
      exact free there
  have found : (t.put (place ++ [name]) (.file content)).resolve path = .ok (place ++ [name]) := by
    unfold resolve
    change (t.start path >>= _) = _
    simp only [starts, bind, Except.bind, walk_append, walk_kept kept leads here]
    rw [walk, kept place here]
    simp [filled, noDot, noDots, fits, nodes, walk]
  refine ⟨?_, rfl, place ++ [name], found, ?_⟩
  · simp [read, found, nodes, bind, Except.bind, pure, Except.pure]
  · intro other apart
    rw [nodes, if_neg apart]

end Tree

end KeySheet.Files
