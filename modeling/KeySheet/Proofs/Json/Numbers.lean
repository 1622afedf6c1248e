import KeySheet.Json.Writer
import KeySheet.Proofs.Json.NumberRuns
import KeySheet.Proofs.Json.Sound

/-! The numbers of documents. The integers that a text can give fit into 64 bits, and each of them is
written so that it is read back. A double is written with its shortest digits but read with two
roundings, so that some doubles come back as a neighbour. -/
namespace KeySheet.Json

open Decimal (Binary64)
open Text (isAsciiDigit)

/-- Within the integers that a text can give. -/
def Number.Fits : Number → Prop
  | .integer n => -(Binary64.signBit : Int) ≤ n ∧ n ≤ maxWord
  | .real _ => True

/-- Every number of the document fits. -/
def Fitting (j : Json) : Prop := ∀ x ∈ j.numbers, x.Fits

section Reading

variable {minus : Bool} {g : Gathered} {cs : List Char} {r : Json × List Char}

theorem gatherWhole_le {n : Nat} (h : n ≤ maxWord) (cs : List Char) :
    (gatherWhole n cs).1.significand ≤ maxWord := by
  fun_induction gatherWhole n cs with
  | case1 n => exact h
  | case2 n c rest digit fits ih => exact ih fits
  | case3 n c rest digit full => exact h
  | case4 n c rest other => exact h

theorem readWhole_le {r : Gathered × List Char} (h : readWhole cs = some r) :
    r.1.significand ≤ maxWord := by
  unfold readWhole at h
  split at h
  · split at h
    · cases h
    · cases h; exact Nat.zero_le _
  · split at h
    · cases h; exact gatherWhole_le (Nat.zero_le _) _
    · cases h
  · cases h

theorem integerOrReal_fits {n : Nat} (h : n ≤ maxWord) (minus : Bool) :
    (integerOrReal minus n).Fits := by
  unfold integerOrReal
  split
  · exact ⟨by omega, Int.ofNat_le.mpr h⟩
  split
  · trivial
  · next small =>
      simp only [Bool.or_eq_true, decide_eq_true_eq, not_or, Nat.not_lt] at small
      exact ⟨by omega, by omega⟩

theorem numberOr_fitting (x : Option Binary64) (minus : Bool) : Fitting (numberOr x minus) := by
  intro n member
  cases x with
  | none => cases member
  | some x => cases List.mem_singleton.mp member; trivial

theorem readExponent_fitting (h : readExponent minus g cs = some r) : Fitting r.1 := by
  unfold readExponent at h
  split at h
  split at h
  · cases h
  · cases h; exact numberOr_fitting _ _

theorem finishReal_fitting (h : finishReal minus g cs = some r) : Fitting r.1 := by
  unfold finishReal at h
  split at h
  · exact readExponent_fitting h
  · exact readExponent_fitting h
  · cases h; exact numberOr_fitting _ _

theorem readBehind_fitting (fits : g.significand ≤ maxWord)
    (h : readBehind minus (g, cs) = some r) : Fitting r.1 := by
  unfold readBehind at h
  dsimp only at h
  split at h
  · split at h
    · exact finishReal_fitting h
    · cases h
  · exact finishReal_fitting h
  · exact finishReal_fitting h
  · split at h
    · cases h
      intro x member
      exact List.mem_singleton.mp member ▸ integerOrReal_fits fits minus
    · exact finishReal_fitting h

theorem readNumber_fitting (h : readNumber minus cs = some r) : Fitting r.1 := by
  rw [readNumber_eq] at h
  obtain ⟨⟨g, behind⟩, whole, follows⟩ := Option.bind_eq_some_iff.mp h
  exact readBehind_fitting (readWhole_le whole) follows

end Reading

section Fuel

variable {fuel : Nat}

/-- What the readings of a value, of items and of fields give with some fuel. -/
structure ReadsFitting (fuel : Nat) : Prop where
  value : ∀ cs r, readValue fuel cs = some r → Fitting r.1
  items : ∀ acc cs r, readItems fuel acc cs = some r → (∀ j ∈ acc, Fitting j) →
    ∀ j ∈ r.1, Fitting j
  fields : ∀ acc cs r, readFields fuel acc cs = some r → (∀ f ∈ acc, Fitting f.2) →
    ∀ fields ∈ r.1, ∀ f ∈ fields, Fitting f.2

theorem fitting_array {items : List Json} (h : ∀ j ∈ items, Fitting j) :
    Fitting (.array items) := by
  intro x member
  obtain ⟨j, item, inside⟩ := mem_numbersItems.mp member
  exact h j item x inside

theorem fitting_object {fields : Fields} (h : ∀ f ∈ fields, Fitting f.2) :
    Fitting (.object fields) := by
  intro x member
  obtain ⟨f, field, inside⟩ := mem_numbersFields.mp member
  exact h f field x inside

theorem ReadsFitting.readValue (h : ReadsFitting fuel) (cs : List Char) (r : Json × List Char)
    (read : readValue (fuel + 1) cs = some r) : Fitting r.1 := by
  unfold Json.readValue at read
  split at read
  · cases read; nofun
  · cases read; nofun
  · cases read; nofun
  · split at read
    · cases read; nofun
    · cases read; nofun
    · cases read
  · exact readNumber_fitting read
  · split at read
    · cases read; nofun
    · obtain ⟨items, taken, rfl⟩ := Option.map_eq_some_iff.mp read
      exact fitting_array (h.items _ _ _ taken nofun)
  · split at read
    · cases read; nofun
    · obtain ⟨⟨fields, rest⟩, taken, rfl⟩ := Option.map_eq_some_iff.mp read
      cases fields with
      | none => nofun
      | some fields => exact fitting_object (h.fields _ _ _ taken nofun fields rfl)
  · exact readNumber_fitting read

theorem ReadsFitting.readItems (h : ReadsFitting fuel) (acc : List Json) (cs : List Char)
    (r : List Json × List Char) (read : readItems (fuel + 1) acc cs = some r)
    (before : ∀ j ∈ acc, Fitting j) : ∀ j ∈ r.1, Fitting j := by
  unfold Json.readItems at read
  split at read
  · cases read
  · next j rest first =>
      have here : ∀ i ∈ j :: acc, Fitting i :=
        List.forall_mem_cons.mpr ⟨h.value _ _ first, before⟩
      split at read
      · exact h.items _ _ _ read here
      · cases read
        exact fun i member => here i (List.mem_reverse.mp member)
      · cases read

theorem ReadsFitting.readFields (h : ReadsFitting fuel) (acc : Fields) (cs : List Char)
    (r : Option Fields × List Char) (read : readFields (fuel + 1) acc cs = some r)
    (before : ∀ f ∈ acc, Fitting f.2) : ∀ fields ∈ r.1, ∀ f ∈ fields, Fitting f.2 := by
  unfold Json.readFields at read
  split at read
  · split at read
    · cases read
    · next name rest _ =>
        split at read
        · split at read
          · cases read
          · next j rest first =>
              have here : ∀ f ∈ (name.getD "", j) :: acc, Fitting f.2 :=
                List.forall_mem_cons.mpr ⟨h.value _ _ first, before⟩
              -- A name without a value leaves no fields at all.
              extract_lets add at read
              have added (fields : Option Fields) : ∀ left ∈ add fields, left ∈ fields := by
                intro left member
                unfold add at member
                split at member
                · cases member
                · exact member
              split at read
              · obtain ⟨⟨fields, rest⟩, taken, rfl⟩ := Option.map_eq_some_iff.mp read
                intro left member
                exact h.fields _ _ _ taken here left (added fields left member)
              · cases read
                intro left member
                cases added _ left member
                exact fun f field => here f (List.mem_reverse.mp field)
              · cases read
        · cases read
  · cases read

theorem readsFitting (fuel : Nat) : ReadsFitting fuel := by
  induction fuel with
  | zero => exact ⟨nofun, nofun, nofun⟩
  | succ fuel ih => exact ⟨ih.readValue, ih.readItems, ih.readFields⟩

/-- Every integer of a text that is read fits into 64 bits. -/
theorem parse_fitting {text : String} {j : Json} (h : parse text = some j) : Fitting j := by
  unfold parse at h
  dsimp only at h
  split at h
  · next value rest taken =>
      split at h
      · cases h; exact (readsFitting _).value _ _ taken
      · cases h
  · cases h

end Fuel

section Writing

open Text (digits)

theorem isAsciiDigit_of_mem_digits {n : Nat} {c : Char} (h : c ∈ digits n) :
    isAsciiDigit c = true := by
  have digit := Nat.isDigit_of_mem_toDigits (by decide) (by decide) h
  exact digit

theorem le_ofDigitChars (ds : List Char) (n : Nat) : n ≤ Nat.ofDigitChars 10 ds n := by
  induction ds generalizing n with
  | nil => exact Nat.le_refl n
  | cons c ds ih =>
      rw [Nat.ofDigitChars_cons]
      exact Nat.le_trans (by omega) (ih _)

theorem gatherWhole_digits {ds : List Char} (run : ∀ c ∈ ds, isAsciiDigit c = true) {n : Nat}
    (fits : Nat.ofDigitChars 10 ds n ≤ maxWord) :
    gatherWhole n ds = (⟨Nat.ofDigitChars 10 ds n, 0⟩, []) := by
  induction ds generalizing n with
  | nil => rfl
  | cons c ds ih =>
      obtain ⟨digit, run⟩ := List.forall_mem_cons.mp run
      have step : n * 10 + Text.digitValue c = 10 * n + (c.toNat - '0'.toNat) := by
        rw [Nat.mul_comm]; rfl
      rw [Nat.ofDigitChars_cons, ← step] at fits ⊢
      rw [gatherWhole, if_pos digit, if_pos (Nat.le_trans (le_ofDigitChars ds _) fits), ih run fits]

/-- Above zero there is no leading zero. -/
theorem digits_first {n : Nat} (h : 0 < n) : ∃ c ds, digits n = c :: ds ∧ c ≠ '0' := by
  induction n using Nat.strongRecOn with
  | _ n ih =>
      by_cases small : n < 10
      · refine ⟨n.digitChar, [], Nat.toDigits_of_lt_base small, fun zero => ?_⟩
        exact absurd (Nat.digitChar_eq_zero.mp zero) (Nat.ne_of_gt h)
      · obtain ⟨c, ds, shown, notZero⟩ := ih (n / 10) (by omega) (by omega)
        refine ⟨c, ds ++ [(n % 10).digitChar], ?_, notZero⟩
        rw [digits, Nat.toDigits_of_base_le (by decide) (Nat.le_of_not_lt small)]
        exact congrArg (· ++ _) shown

theorem readWhole_digits {n : Nat} (fits : n ≤ maxWord) :
    readWhole (digits n) = some (⟨n, 0⟩, []) := by
  by_cases zero : n = 0
  · subst zero; rfl
  obtain ⟨c, ds, shown, notZero⟩ := digits_first (Nat.pos_of_ne_zero zero)
  have run : ∀ d ∈ c :: ds, isAsciiDigit d = true :=
    fun d member => isAsciiDigit_of_mem_digits (shown ▸ member)
  have value : Nat.ofDigitChars 10 (c :: ds) 0 = n := by
    rw [← shown]; exact Nat.ofDigitChars_ten_toDigits
  rw [shown, readWhole_digit notZero (run c List.mem_cons_self),
    gatherWhole_digits run (value ▸ fits), value]

theorem readNumber_digits {n : Nat} (fits : n ≤ maxWord) (minus : Bool) :
    readNumber minus (digits n) = some (.number (integerOrReal minus n), []) := by
  rw [readNumber_eq, readWhole_digits fits]
  rfl

/-- A character that numbers are written with. -/
def isNumeral (c : Char) : Bool := isAsciiDigit c || ['-', '+', '.', 'e'].contains c

theorem isSpace_eq_false_of_isNumeral {c : Char} (h : isNumeral c = true) : isSpace c = false := by
  by_contra blank
  simp only [isSpace, Bool.or_eq_true, beq_iff_eq, Bool.not_eq_false] at blank
  rcases blank with ((rfl | rfl) | rfl) | rfl <;> cases h

theorem digits_numeral (n : Nat) : (digits n).all isNumeral = true := by
  refine List.all_eq_true.mpr fun c member => ?_
  rw [isNumeral, isAsciiDigit_of_mem_digits member, Bool.true_or]

theorem zeros_numeral (n : Nat) : (Decimal.zeros n).all isNumeral = true := by
  refine List.all_eq_true.mpr fun c member => ?_
  cases List.eq_of_mem_replicate member
  rfl

theorem places_numeral (style : Decimal.Notation) {ds : List Char}
    (h : ds.all isNumeral = true) (e : Int) : (style.places ds e).all isNumeral = true := by
  have part {cs : List Char} (sub : cs ⊆ ds) : cs.all isNumeral = true :=
    List.all_eq_true.mpr fun c member => List.all_eq_true.mp h c (sub member)
  unfold Decimal.Notation.places
  split
  · simp only [List.all_cons, List.all_append, zeros_numeral, h]; rfl
  dsimp only
  split
  · split <;> simp only [List.all_append, zeros_numeral, h] <;> rfl
  · simp only [List.all_append, List.all_cons, part (List.take_subset _ ds),
      part (List.drop_subset _ ds)]
    rfl

theorem scientific_numeral {ds : List Char} (h : ds.all isNumeral = true) (e : Int) :
    (Decimal.scientific ds e).all isNumeral = true := by
  have exponent : ((if e < 0 then '-' else '+') :: digits e.natAbs).all isNumeral = true := by
    rw [List.all_cons, digits_numeral]
    split <;> rfl
  match ds with
  | [] => exact exponent
  | [d] =>
      rw [Decimal.scientific, List.all_append, h]
      exact exponent
  | d :: c :: rest =>
      obtain ⟨first, others⟩ := Bool.and_eq_true_iff.mp h
      show ((d :: '.' :: c :: rest) ++ _).all isNumeral = true
      rw [List.all_append, List.all_cons, List.all_cons, first]
      exact Bool.and_eq_true_iff.mpr ⟨others, exponent⟩

theorem signed_numeral {body : List Char} (h : body.all isNumeral = true) (negative : Bool) :
    (if negative then '-' :: body else body).all isNumeral = true := by
  cases negative <;> exact h

theorem show_numeral (style : Decimal.Notation) (x : Binary64) :
    (style.show x).toList.all isNumeral = true := by
  unfold Decimal.Notation.show
  rw [String.toList_ofList]
  refine signed_numeral ?_ x.isNegative
  split
  · exact places_numeral style (digits_numeral _) _
  · exact scientific_numeral (digits_numeral _) _

theorem render_ofNat (n : Nat) : (Number.integer (.ofNat n)).render = digits n :=
  String.toList_ofList

theorem render_negSucc (n : Nat) : (Number.integer (.negSucc n)).render = '-' :: digits (n + 1) := by
  rw [Number.render, Text.showInt, Text.showNat, String.toList_append, String.toList_ofList,
    String.toList_ofList]
  rfl

theorem render_numeral (x : Number) : x.render.all isNumeral = true := by
  cases x with
  | integer n =>
      cases n with
      | ofNat n => rw [render_ofNat, digits_numeral]
      | negSucc n => rw [render_negSucc, List.all_cons, digits_numeral]; rfl
  | real x => exact show_numeral numberStyle x

end Writing

section ReadBack

/-- The text of the number is read as the number. -/
def Number.ReadsBack (x : Number) : Prop := parse (compact (.number x)) = some (.number x)

theorem skipSpace_numeral {cs : List Char} (h : cs.all isNumeral = true) : skipSpace cs = cs := by
  cases cs with
  | nil => rfl
  | cons c cs =>
      obtain ⟨first, -⟩ := Bool.and_eq_true_iff.mp h
      exact List.dropWhile_cons_of_neg
        (Bool.eq_false_iff.mp (isSpace_eq_false_of_isNumeral first))

theorem readValue_digit (fuel : Nat) {c : Char} (digit : isAsciiDigit c = true)
    (cs : List Char) : readValue (fuel + 1) (c :: cs) = readNumber false (c :: cs) := by
  unfold readValue
  split
  case h_8 => rfl
  all_goals next first => cases first; cases digit

theorem readNumber_first {minus : Bool} {cs : List Char} {r : Json × List Char}
    (h : readNumber minus cs = some r) : ∃ c ds, cs = c :: ds ∧ isAsciiDigit c = true := by
  rw [readNumber_eq] at h
  obtain ⟨g, whole, -⟩ := Option.bind_eq_some_iff.mp h
  unfold readWhole at whole
  split at whole
  · exact ⟨'0', _, rfl, rfl⟩
  · next c ds _ =>
      split at whole
      · next digit => exact ⟨c, ds, rfl, digit⟩
      · cases whole
  · cases whole

/-- Numbers are read behind a dash or from their first digit on. -/
theorem readNumber_of_readValue {fuel : Nat} {cs rest : List Char} {x : Number}
    (h : readValue fuel cs = some (.number x, rest)) :
    (∃ ds, cs = '-' :: ds ∧ readNumber true ds = some (.number x, rest)) ∨
      readNumber false cs = some (.number x, rest) := by
  cases fuel with
  | zero => cases h
  | succ fuel =>
      unfold readValue at h
      split at h
      · cases h
      · cases h
      · cases h
      · split at h <;> cases h
      · exact .inl ⟨_, rfl, h⟩
      · split at h
        · cases h
        · obtain ⟨items, -, wrong⟩ := Option.map_eq_some_iff.mp h
          cases wrong
      · split at h
        · cases h
        · obtain ⟨⟨fields, rest⟩, -, wrong⟩ := Option.map_eq_some_iff.mp h
          cases fields <;> cases wrong
      · exact .inr h

/-- What is read as a number is a run that is read alike in front of any text that ends it. -/
theorem readValue_takes_number {fuel : Nat} {cs rest : List Char} {x : Number}
    (h : readValue fuel cs = some (.number x, rest)) :
    ∃ used, cs = used ++ rest ∧ ∀ more, EndsNumber more → ∀ fuel,
      readValue (fuel + 1) (used ++ more) = some (.number x, more) := by
  rcases readNumber_of_readValue h with ⟨ds, rfl, read⟩ | read
  · obtain ⟨used, rfl, same⟩ := readNumber_takes read
    exact ⟨'-' :: used, rfl, fun more ends fuel => same more ends⟩
  · obtain ⟨used, parts, same⟩ := readNumber_takes read
    refine ⟨used, parts, fun more ends fuel => ?_⟩
    have again := same more ends
    obtain ⟨c, ds, run, digit⟩ := readNumber_first again
    rw [run] at again ⊢
    rw [readValue_digit fuel digit, again]

/-- A number that is read back on its own is read back in front of any text that ends it. -/
theorem Number.ReadsBack.readValue {x : Number} (h : x.ReadsBack) {rest : List Char}
    (ends : EndsNumber rest) (fuel : Nat) :
    Json.readValue (fuel + 1) (x.render ++ rest) = some (.number x, rest) := by
  unfold ReadsBack parse compact at h
  rw [Json.render, String.toList_ofList] at h
  dsimp only at h
  rw [skipSpace_numeral (render_numeral x)] at h
  split at h
  · next j left taken =>
      split at h
      · next blank =>
          cases h
          obtain ⟨used, parts, same⟩ := readValue_takes_number taken
          have numeral : left.all isNumeral = true := by
            have all := render_numeral x
            rw [parts, List.all_append] at all
            exact (Bool.and_eq_true_iff.mp all).2
          rw [skipSpace_numeral numeral, List.isEmpty_iff] at blank
          rw [parts, blank, List.append_nil]
          exact same rest ends fuel
      · cases h
  · cases h

theorem endsNumber_nil : EndsNumber [] := ⟨rfl, nofun⟩

/-- The texts of integers are read back. -/
theorem readsBack_integer {n : Int} (h : (Number.integer n).Fits) :
    (Number.integer n).ReadsBack := by
  have read (fuel : Nat) :
      readValue (fuel + 1) (Number.integer n).render = some (.number (.integer n), []) := by
    obtain ⟨low, high⟩ := h
    cases n with
    | ofNat n =>
        have shown := readNumber_digits (Int.ofNat_le.mp high) false
        obtain ⟨c, ds, run, digit⟩ := readNumber_first shown
        rw [render_ofNat, run, readValue_digit fuel digit, ← run]
        exact shown
    | negSucc n =>
        have small : n + 1 ≤ Binary64.signBit := by omega
        have integer : integerOrReal true (n + 1) = .integer (.negSucc n) := by
          have real : ¬ (decide (n + 1 = 0) || decide (Binary64.signBit < n + 1)) = true := by
            rw [Bool.or_eq_true, decide_eq_true_eq, decide_eq_true_eq]
            omega
          exact (if_neg Bool.false_ne_true).trans (if_neg real)
        have fits : Binary64.signBit ≤ maxWord := by decide
        rw [render_negSucc, ← integer]
        exact readNumber_digits (Nat.le_trans small fits) true
  have whole := skipSpace_numeral (render_numeral (.integer n))
  unfold Number.ReadsBack parse compact
  rw [Json.render, String.toList_ofList]
  dsimp only
  rw [whole, read]
  rfl

def asNumber : Json → Option Number
  | .number x => some x
  | _ => none

theorem readsBack_iff {x : Number} :
    x.ReadsBack ↔ (parse (compact (.number x))).bind asNumber = some x := by
  constructor
  · intro back
    rw [Number.ReadsBack] at back
    rw [back]
    rfl
  · intro same
    obtain ⟨j, read, number⟩ := Option.bind_eq_some_iff.mp same
    cases j with
    | number y => cases number; exact read
    | _ => cases number

instance (x : Number) : Decidable x.ReadsBack := decidable_of_iff' _ readsBack_iff

/-- `0.9708212516916319` has more digits than a double holds, and comes back as its neighbour. -/
theorem long_double_is_not_read_back : ¬ (Number.real ⟨4606919600000000000⟩).ReadsBack := by
  decide +kernel

end ReadBack

end KeySheet.Json
