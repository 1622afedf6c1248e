import KeySheet.Proofs.Json.Canonical

/-! Documents by what stands in them. A document is sound when every part of it has a value, no
value stands too deep and every number is of a given kind. Its canonical form is sound as well. -/
namespace KeySheet.Json

mutual

/-- The numbers of a document, in the order of the text. -/
def numbers : Json → List Number
  | .number x => [x]
  | .array items => numbersItems items
  | .object fields => numbersFields fields
  | _ => []

def numbersItems : List Json → List Number
  | [] => []
  | j :: rest => numbers j ++ numbersItems rest

def numbersFields : Fields → List Number
  | [] => []
  | (_, v) :: rest => numbers v ++ numbersFields rest

end

/-- Readable throughout, at most so many arrays and objects deep, every number of the kind `p`. -/
inductive Sound (p : Number → Prop) : Nat → Json → Prop where
  | null {n : Nat} : Sound p n .null
  | bool {n : Nat} (b : Bool) : Sound p n (.bool b)
  | number {n : Nat} {x : Number} (h : p x) : Sound p n (.number x)
  | string {n : Nat} (s : String) : Sound p n (.string s)
  | array {n : Nat} {items : List Json} (h : ∀ j ∈ items, Sound p n j) :
      Sound p (n + 1) (.array items)
  | object {n : Nat} {fields : Fields} (h : ∀ f ∈ fields, Sound p n f.2) :
      Sound p (n + 1) (.object fields)

section Parts

variable {items : List Json} {fields : Fields} {n : Nat} {x : Number}

theorem readableItems_iff : readableItems items = true ↔ ∀ j ∈ items, j.isReadable = true := by
  induction items with
  | nil => simp [readableItems]
  | cons j rest ih => rw [readableItems, Bool.and_eq_true, ih, List.forall_mem_cons]

theorem readableFields_iff :
    readableFields fields = true ↔ ∀ f ∈ fields, f.2.isReadable = true := by
  induction fields with
  | nil => simp [readableFields]
  | cons f rest ih => rw [readableFields, Bool.and_eq_true, ih, List.forall_mem_cons]

theorem depthItems_le_iff : depthItems items ≤ n ↔ ∀ j ∈ items, j.depth ≤ n := by
  induction items with
  | nil => simp [depthItems]
  | cons j rest ih => rw [depthItems, max_le_iff, ih, List.forall_mem_cons]

theorem depthFields_le_iff : depthFields fields ≤ n ↔ ∀ f ∈ fields, f.2.depth ≤ n := by
  induction fields with
  | nil => simp [depthFields]
  | cons f rest ih => rw [depthFields, max_le_iff, ih, List.forall_mem_cons]

theorem mem_numbersItems : x ∈ numbersItems items ↔ ∃ j ∈ items, x ∈ j.numbers := by
  induction items with
  | nil => simp [numbersItems]
  | cons j rest ih => rw [numbersItems, List.mem_append, ih, List.exists_mem_cons_iff]

theorem mem_numbersFields : x ∈ numbersFields fields ↔ ∃ f ∈ fields, x ∈ f.2.numbers := by
  induction fields with
  | nil => simp [numbersFields]
  | cons f rest ih => rw [numbersFields, List.mem_append, ih, List.exists_mem_cons_iff]

end Parts

namespace Sound

variable {p q : Number → Prop} {n : Nat} {j : Json} {fields : Fields}

theorem readable (h : Sound p n j) : j.isReadable = true := by
  induction h with
  | array _ ih => exact readableItems_iff.mpr ih
  | object _ ih => exact readableFields_iff.mpr ih
  | _ => rfl

theorem depth_le (h : Sound p n j) : j.depth ≤ n := by
  induction h with
  | array _ ih => exact Nat.succ_le_succ (depthItems_le_iff.mpr ih)
  | object _ ih => exact Nat.succ_le_succ (depthFields_le_iff.mpr ih)
  | _ => exact Nat.zero_le _

theorem number_of_mem (h : Sound p n j) {x : Number} (member : x ∈ j.numbers) : p x := by
  induction h with
  | number hx => exact List.mem_singleton.mp member ▸ hx
  | array _ ih =>
      obtain ⟨j, item, inside⟩ := mem_numbersItems.mp member
      exact ih j item inside
  | object _ ih =>
      obtain ⟨f, field, inside⟩ := mem_numbersFields.mp member
      exact ih f field inside
  | _ => cases member

/-- The depth bounds the induction: what stands in an array or an object is less deep. -/
theorem of_parts (readable : j.isReadable = true) (shallow : j.depth ≤ n)
    (numbers : ∀ x ∈ j.numbers, p x) : Sound p n j := by
  induction n generalizing j with
  | zero =>
      cases j with
      | null => exact .null
      | bool b => exact .bool b
      | number x => exact .number (numbers x (List.mem_singleton_self x))
      | string s => exact .string s
      | array items => cases shallow
      | object fields => cases shallow
      | unreadable => cases readable
  | succ n ih =>
      cases j with
      | null => exact .null
      | bool b => exact .bool b
      | number x => exact .number (numbers x (List.mem_singleton_self x))
      | string s => exact .string s
      | array items =>
          have below := depthItems_le_iff.mp (Nat.le_of_succ_le_succ shallow)
          refine .array fun j item => ih (readableItems_iff.mp readable j item) (below j item) ?_
          exact fun x member => numbers x (mem_numbersItems.mpr ⟨j, item, member⟩)
      | object fields =>
          have below := depthFields_le_iff.mp (Nat.le_of_succ_le_succ shallow)
          refine .object fun f field =>
            ih (readableFields_iff.mp readable f field) (below f field) ?_
          exact fun x member => numbers x (mem_numbersFields.mpr ⟨f, field, member⟩)
      | unreadable => cases readable

/-- The numbers of a sound document may be known to be of another kind. -/
theorem imp (h : Sound p n j) (numbers : ∀ x ∈ j.numbers, p x → q x) : Sound q n j :=
  of_parts h.readable h.depth_le fun x member => numbers x member (h.number_of_mem member)

end Sound

theorem Fields.mem_sort {fields : Fields} {f : String × Json} (h : f ∈ fields.sort) :
    f ∈ fields := by
  induction fields using List.reverseRecOn with
  | nil => exact h
  | append_singleton fields g ih =>
      rw [sort_append] at h
      rw [List.mem_append, List.mem_singleton]
      exact (mem_insert h).symm.imp_left ih

theorem canonicalItems_eq (items : List Json) : canonicalItems items = items.map canonical := by
  induction items with
  | nil => rfl
  | cons j rest ih => rw [canonicalItems, ih, List.map_cons]

namespace Sound

variable {p : Number → Prop} {n : Nat} {j : Json}

theorem canonical (h : Sound p n j) : Sound p n j.canonical := by
  induction h with
  | null => exact .null
  | bool b => exact .bool b
  | number hx => exact .number hx
  | string s => exact .string s
  | @array n items _ ih =>
      rw [Json.canonical, canonicalItems_eq]
      refine .array fun j member => ?_
      obtain ⟨i, item, rfl⟩ := List.mem_map.mp member
      exact ih i item
  | @object n fields _ ih =>
      rw [Json.canonical, canonicalFields_eq]
      refine .object fun f member => ?_
      obtain ⟨g, field, rfl⟩ := List.mem_map.mp (Fields.mem_sort member)
      exact ih g field

end Sound

end KeySheet.Json
