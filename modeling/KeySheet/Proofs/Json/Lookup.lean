import KeySheet.Json.Decode
import KeySheet.Proofs.Json.Canonical
import Mathlib.Data.List.Nodup

/-! Looking up names. Where no name stands twice, all ways of looking one up agree, and sorted fields
are determined by what they have under each name. -/
namespace KeySheet.Json

namespace Fields

variable {fields more : Fields} {name : String} {value : Json}

theorem get?_absent (absent : name ∉ fields.map (·.1)) : get? name fields = none := by
  induction fields with
  | nil => rfl
  | cons f rest ih =>
      rw [List.map_cons, List.mem_cons, not_or] at absent
      rw [get?_cons, if_neg (Ne.symm absent.1), ih absent.2]

theorem get?_filter (keep : String → Bool) (kept : keep name = true) (fields : Fields) :
    get? name (fields.filter (fun f => keep f.1)) = get? name fields := by
  induction fields with
  | nil => rfl
  | cons f rest ih =>
      rw [List.filter_cons]
      split
      · rw [get?_cons, get?_cons, ih]
      · next dropped =>
          have : f.1 ≠ name := fun same => dropped (same ▸ kept)
          rw [ih, get?_cons, if_neg this]

theorem mem_of_get? (h : get? name fields = some value) : (name, value) ∈ fields := by
  obtain ⟨f, found, rfl⟩ := Option.map_eq_some_iff.mp h
  have same : f.1 = name := by simpa using List.find?_some found
  exact same ▸ List.mem_of_find?_eq_some found

theorem get?_eq_some_iff (once : (fields.map (·.1)).Nodup) :
    get? name fields = some value ↔ (name, value) ∈ fields := by
  refine ⟨mem_of_get?, fun member => ?_⟩
  induction fields with
  | nil => cases member
  | cons f rest ih =>
      obtain ⟨alone, once⟩ := List.nodup_cons.mp once
      rw [get?_cons]
      rcases List.mem_cons.mp member with rfl | later
      · exact if_pos rfl
      · have differ : f.1 ≠ name := fun same => alone (List.mem_map.mpr ⟨_, later, same.symm⟩)
        rw [if_neg differ, ih once later]

theorem mem_names_iff : name ∈ fields.map (·.1) ↔ ∃ value, get? name fields = some value := by
  constructor
  · intro member
    cases found : get? name fields with
    | some value => exact ⟨value, rfl⟩
    | none =>
        obtain ⟨f, field, same⟩ := List.mem_map.mp member
        have differ := List.find?_eq_none.mp (Option.map_eq_none_iff.mp found) f field
        exact absurd (beq_iff_eq.mpr same) differ
  · rintro ⟨value, found⟩
    exact List.mem_map_of_mem (mem_of_get? found)

/-- The first value of a name is its last one too. -/
theorem get?_reverse (once : (fields.map (·.1)).Nodup) (name : String) :
    get? name fields.reverse = get? name fields := by
  have onceBack : (fields.reverse.map (·.1)).Nodup := by
    rwa [List.map_reverse, List.nodup_reverse]
  refine Option.ext fun value => ?_
  rw [get?_eq_some_iff onceBack, get?_eq_some_iff once, List.mem_reverse]

theorem single_eq (once : (fields.map (·.1)).Nodup) (name : String) :
    single name fields = some (get? name fields) := by
  induction fields with
  | nil => rfl
  | cons f rest ih =>
      obtain ⟨alone, once⟩ := List.nodup_cons.mp once
      rw [get?_cons]
      by_cases here : f.1 = name
      · have others : rest.filter (fun g => g.1 == name) = [] := by
          refine List.filter_eq_nil_iff.mpr fun g field same => ?_
          exact alone (List.mem_map.mpr ⟨g, field, (beq_iff_eq.mp same).trans here.symm⟩)
        rw [if_pos here, single, List.filter_cons, if_pos (beq_iff_eq.mpr here), others]
      · rw [if_neg here, ← ih once, single, List.filter_cons, if_neg (by simpa using here)]
        rfl

theorem Ascending.once (h : fields.Ascending) : (fields.map (·.1)).Nodup :=
  List.pairwise_map.mpr (h.imp fun below => ne_of_lt below)

/-- Sorted fields that have the same value under each name are the same. -/
theorem Ascending.ext (h : fields.Ascending) (k : more.Ascending)
    (same : ∀ name, get? name fields = get? name more) : fields = more := by
  have members (f : String × Json) : f ∈ fields ↔ f ∈ more := by
    rw [← get?_eq_some_iff h.once, ← get?_eq_some_iff k.once, same]
  have perm := (List.perm_ext_iff_of_nodup (h.once.of_map _) (k.once.of_map _)).mpr members
  exact perm.eq_of_pairwise (fun f g _ _ below above => absurd above (lt_asymm below)) h k

end Fields

theorem field_eq {α : Type} {fields : Fields} (once : (fields.map (·.1)).Nodup) (name : String)
    (read : Option Json → Option α) :
    field fields name read = read (Fields.get? name fields) := by
  rw [field, Fields.single_eq once]
  rfl

end KeySheet.Json
