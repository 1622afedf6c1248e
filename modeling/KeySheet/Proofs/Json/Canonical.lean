import Mathlib.Data.List.Induction
import Mathlib.Data.String.Basic
import KeySheet.Json.Basic

/-! Canonical documents: objects are sorted, and each name stands once. The value under a name is the
last one that the document gives it, and a document that is canonical already stays as it is. -/
namespace KeySheet.Json

namespace Fields

variable {fields : Fields} {name other : String} {value : Json}

theorem get?_cons (name other : String) (value : Json) (fields : Fields) :
    get? other ((name, value) :: fields) = if name = other then some value else get? other fields := by
  unfold get?
  by_cases same : name = other <;> simp [same]

theorem get?_append (fields more : Fields) (name : String) :
    get? name (fields ++ more) = (get? name fields).or (get? name more) := by
  rw [get?, List.find?_append, Option.map_or]
  rfl

theorem get?_insert (fields : Fields) (name other : String) (value : Json) :
    get? other (fields.insert name value) = if name = other then some value else get? other fields := by
  induction fields with
  | nil => exact get?_cons name other value []
  | cons f rest ih =>
      obtain ⟨k, v⟩ := f
      unfold insert
      split
      · next same =>
          subst same
          rw [get?_cons, get?_cons]
          split <;> rfl
      split
      · exact get?_cons name other value _
      · next differ _ =>
          rw [get?_cons, get?_cons, ih]
          by_cases here : k = other
          · have : name ≠ other := fun same => differ (same.trans here.symm)
            rw [if_pos here, if_neg this, if_pos here]
          · rw [if_neg here, if_neg here]

theorem sort_append (fields : Fields) (f : String × Json) :
    sort (fields ++ [f]) = fields.sort.insert f.1 f.2 :=
  List.foldl_append

/-- Of each name the last value stays. -/
theorem get?_sort (fields : Fields) (name : String) :
    get? name fields.sort = get? name fields.reverse := by
  induction fields using List.reverseRecOn with
  | nil => rfl
  | append_singleton fields f ih =>
      rw [sort_append, get?_insert, ih, List.reverse_append]
      exact (get?_cons f.1 name f.2 fields.reverse).symm

/-- Sorted by name, each name once. -/
def Ascending (fields : Fields) : Prop := fields.Pairwise (fun f g => f.1 < g.1)

theorem mem_insert {f : String × Json} (h : f ∈ fields.insert name value) :
    f = (name, value) ∨ f ∈ fields := by
  induction fields with
  | nil => exact .inl (List.mem_singleton.mp h)
  | cons g rest ih =>
      obtain ⟨k, v⟩ := g
      unfold insert at h
      split at h
      · next same =>
          subst same
          exact (List.mem_cons.mp h).imp_right (List.mem_cons_of_mem _)
      split at h
      · exact List.mem_cons.mp h
      · rcases List.mem_cons.mp h with here | later
        · exact .inr (here ▸ List.mem_cons_self)
        · exact (ih later).imp_right (List.mem_cons_of_mem _)

theorem Ascending.insert (h : fields.Ascending) (name : String) (value : Json) :
    (fields.insert name value).Ascending := by
  induction fields with
  | nil => exact List.pairwise_singleton _ _
  | cons f rest ih =>
      obtain ⟨k, v⟩ := f
      obtain ⟨above, rest_ascending⟩ := List.pairwise_cons.mp h
      unfold Fields.insert
      split
      · exact List.pairwise_cons.mpr ⟨above, rest_ascending⟩
      split
      · next below =>
          refine List.pairwise_cons.mpr ⟨fun g member => ?_, h⟩
          rcases List.mem_cons.mp member with rfl | later
          · exact below
          · exact lt_trans below (above g later)
      · next differ notBelow =>
          refine List.pairwise_cons.mpr ⟨fun g member => ?_, ih rest_ascending⟩
          rcases mem_insert member with rfl | old
          · exact lt_of_le_of_ne (not_lt.mp notBelow) (Ne.symm differ)
          · exact above g old

theorem sort_ascending (fields : Fields) : fields.sort.Ascending := by
  induction fields using List.reverseRecOn with
  | nil => exact List.Pairwise.nil
  | append_singleton fields f ih =>
      rw [sort_append]
      exact ih.insert f.1 f.2

theorem insert_above (above : ∀ f ∈ fields, f.1 < name) (value : Json) :
    fields.insert name value = fields ++ [(name, value)] := by
  induction fields with
  | nil => rfl
  | cons f rest ih =>
      obtain ⟨k, v⟩ := f
      have below : k < name := above _ List.mem_cons_self
      rw [insert, if_neg (ne_of_gt below), if_neg (lt_asymm below),
        ih fun f member => above f (List.mem_cons_of_mem _ member)]
      rfl

theorem Ascending.sort_eq (h : fields.Ascending) : fields.sort = fields := by
  induction fields using List.reverseRecOn with
  | nil => rfl
  | append_singleton fields f ih =>
      obtain ⟨ascending, -, above⟩ := List.pairwise_append.mp h
      rw [sort_append, ih ascending]
      exact insert_above (fun g member => above g member f (List.mem_singleton_self f)) f.2

theorem sort_sort (fields : Fields) : fields.sort.sort = fields.sort :=
  (sort_ascending fields).sort_eq

end Fields

open Fields (get? sort)

theorem canonicalFields_eq (fields : Fields) :
    canonicalFields fields = fields.map (fun f => (f.1, f.2.canonical)) := by
  induction fields with
  | nil => rfl
  | cons f rest ih => rw [canonicalFields, ih, List.map_cons]

theorem get?_canonicalFields (fields : Fields) (name : String) :
    get? name (canonicalFields fields) = (get? name fields).map canonical := by
  induction fields with
  | nil => rfl
  | cons f rest ih =>
      rw [canonicalFields, Fields.get?_cons, ih, Fields.get?_cons]
      split <;> rfl

theorem canonicalFields_reverse (fields : Fields) :
    (canonicalFields fields).reverse = canonicalFields fields.reverse := by
  simp only [canonicalFields_eq, List.map_reverse]

theorem canonicalFields_insert (fields : Fields) (name : String) (value : Json) :
    canonicalFields (fields.insert name value) =
      (canonicalFields fields).insert name value.canonical := by
  induction fields with
  | nil => rfl
  | cons f rest ih =>
      obtain ⟨k, v⟩ := f
      simp only [Fields.insert, canonicalFields]
      split
      · rfl
      split
      · rfl
      · rw [canonicalFields, ih]

theorem canonicalFields_sort (fields : Fields) :
    canonicalFields fields.sort = (canonicalFields fields).sort := by
  induction fields using List.reverseRecOn with
  | nil => rfl
  | append_singleton fields f ih =>
      have parts : canonicalFields (fields ++ [f]) =
          canonicalFields fields ++ [(f.1, f.2.canonical)] := by
        simp only [canonicalFields_eq, List.map_append, List.map_cons, List.map_nil]
      rw [parts, Fields.sort_append, Fields.sort_append, canonicalFields_insert, ih]

mutual

theorem canonical_canonical (j : Json) : j.canonical.canonical = j.canonical := by
  cases j with
  | array items => rw [canonical, canonical, canonicalItems_canonicalItems items]
  | object fields =>
      rw [canonical, canonical, canonicalFields_sort, Fields.sort_sort,
        canonicalFields_canonicalFields fields]
  | _ => rfl

theorem canonicalItems_canonicalItems (items : List Json) :
    canonicalItems (canonicalItems items) = canonicalItems items := by
  cases items with
  | nil => rfl
  | cons j rest =>
      rw [canonicalItems, canonicalItems, canonical_canonical j, canonicalItems_canonicalItems rest]

theorem canonicalFields_canonicalFields (fields : Fields) :
    canonicalFields (canonicalFields fields) = canonicalFields fields := by
  match fields with
  | [] => rfl
  | (k, v) :: rest =>
      rw [canonicalFields, canonicalFields, canonical_canonical v,
        canonicalFields_canonicalFields rest]

end

end KeySheet.Json
