import ArticleTree.Proofs.Keyed
import ArticleTree.Stages.NumberedParams
import Mathlib.Order.Bounds.Basic

/-! # Which numbered parameters are merged

The values are taken out under one number after the other, until a number is missing. Numbers
that come after that one, and keys that are written in another way, are left where they are.
-/

namespace ArticleTree.Stages

variable {family : String} {params : List (String × Param)} {number : Nat}

/-- The key of a number. -/
def numberedKey (family : String) (number : Nat) : String :=
  family ++ toString number

theorem numberedKey_inj {i j : Nat} : numberedKey family i = numberedKey family j ↔ i = j := by
  rw [numberedKey, numberedKey, String.append_right_inj]
  constructor
  · intro h
    rw [Nat.toString_eq_ofList_toDigits, Nat.toString_eq_ofList_toDigits, String.ofList_inj] at h
    rw [← @Nat.ofDigitChars_ten_toDigits i, h, Nat.ofDigitChars_ten_toDigits]
  · rintro rfl
    rfl

/-- The parameter of the number is there, and those of all smaller numbers. -/
def Reached (family : String) (params : List (String × Param)) (number : Nat) : Prop :=
  1 ≤ number ∧ ∀ i, 1 ≤ i → i ≤ number → (Keyed.get? (numberedKey family i) params).isSome

/-- The values that are merged. -/
def numberedValues (family : String) (params : List (String × Param)) : List Param :=
  (takeNumbered family params.length 1 params).1

/-! ## Taking values out -/

/-- The values stand under one number after the other, and there is none under the next. -/
theorem takeNumbered_getElem? {steps : Nat} (h : params.length ≤ steps) {i : Nat}
    (hi : i ≤ (takeNumbered family steps number params).1.length) :
    (takeNumbered family steps number params).1[i]? =
      Keyed.get? (numberedKey family (number + i)) params := by
  -- The steps are enough, since each takes an entry out.
  induction steps generalizing number params i with
  | zero =>
      obtain rfl := List.length_eq_zero_iff.1 (Nat.le_zero.1 h)
      rfl
  | succ steps ih =>
      simp only [takeNumbered] at hi ⊢
      split at hi
      · rename_i hget
        obtain rfl := Nat.le_zero.1 hi
        exact hget.symm
      · rename_i value hget
        cases i with
        | zero => exact hget.symm
        | succ i =>
            have hlength := Keyed.length_erase_lt hget
            have hrest := @ih (Keyed.erase (family ++ toString number) params) (number + 1)
              (by omega) i (by simpa using hi)
            have hother : numberedKey family number ≠ numberedKey family (number + 1 + i) := by
              rw [Ne, numberedKey_inj]
              omega
            rw [List.getElem?_cons_succ, hrest, ← numberedKey, Keyed.get?_erase, if_neg hother]
            congr 2
            omega

/-- Keys that are written in another way keep their values. -/
theorem get?_takeNumbered {steps : Nat} {key : String} (h : ∀ i, key ≠ numberedKey family i) :
    Keyed.get? key (takeNumbered family steps number params).2 = Keyed.get? key params := by
  induction steps generalizing number params with
  | zero => rfl
  | succ steps ih =>
      simp only [takeNumbered]
      split
      · rfl
      · exact ih.trans ((Keyed.get?_erase ..).trans (if_neg (h number).symm))

/-! ## The values that are merged -/

theorem numberedValues_getElem? {i : Nat} (h : i ≤ (numberedValues family params).length) :
    (numberedValues family params)[i]? = Keyed.get? (numberedKey family (i + 1)) params := by
  rw [numberedValues, takeNumbered_getElem? (Nat.le_refl _) h, Nat.add_comm]

theorem reached_iff :
    Reached family params number ↔ 1 ≤ number ∧ number ≤ (numberedValues family params).length := by
  constructor
  · rintro ⟨hone, hreached⟩
    refine ⟨hone, ?_⟩
    by_contra hbeyond
    have hnext := hreached ((numberedValues family params).length + 1) (by omega) (by omega)
    rw [← numberedValues_getElem? (Nat.le_refl _), List.getElem?_eq_none (Nat.le_refl _)] at hnext
    cases hnext
  · rintro ⟨hone, hle⟩
    refine ⟨hone, ?_⟩
    intro i hi hin
    obtain ⟨i, rfl⟩ := Nat.exists_eq_add_of_le' hi
    rw [← numberedValues_getElem? (by omega), List.getElem?_eq_getElem (by omega)]
    rfl

theorem Reached.getElem? (h : Reached family params number) :
    (numberedValues family params)[number - 1]? =
      Keyed.get? (numberedKey family number) params := by
  obtain ⟨hone, hle⟩ := reached_iff.1 h
  rw [numberedValues_getElem? (by omega), Nat.sub_add_cancel hone]

theorem mem_numberedValues {value : Param} : value ∈ numberedValues family params ↔
    ∃ number, Reached family params number ∧
      Keyed.get? (numberedKey family number) params = some value := by
  rw [List.mem_iff_getElem?]
  constructor
  · rintro ⟨i, hi⟩
    have hlt := (List.getElem?_eq_some_iff.1 hi).1
    refine ⟨i + 1, reached_iff.2 ⟨by omega, hlt⟩, ?_⟩
    rw [← numberedValues_getElem? (by omega), hi]
  · rintro ⟨number, hreached, hget⟩
    exact ⟨number - 1, hreached.getElem?.trans hget⟩

/-- There are as many values as numbers from one on without a gap. -/
theorem isGreatest_length : IsGreatest
    {k | ∀ i, 1 ≤ i → i ≤ k → (Keyed.get? (numberedKey family i) params).isSome}
    (numberedValues family params).length := by
  constructor
  · intro i hi hle
    exact (reached_iff.2 ⟨hi, hle⟩).2 i hi (Nat.le_refl i)
  · intro k hk
    cases k with
    | zero => exact Nat.zero_le _
    | succ k => exact (reached_iff.1 ⟨Nat.succ_le_succ (Nat.zero_le k), hk⟩).2

/-- A parameter that is not reached makes no difference. -/
theorem numberedValues_erase {key : String}
    (h : ∀ number, Reached family params number → key ≠ numberedKey family number) :
    numberedValues family (Keyed.erase key params) = numberedValues family params := by
  have hsame {i : Nat} (hi : i < (numberedValues family params).length) :
      Keyed.get? (numberedKey family (i + 1)) (Keyed.erase key params) =
        Keyed.get? (numberedKey family (i + 1)) params := by
    rw [Keyed.get?_erase, if_neg (h (i + 1) (reached_iff.2 ⟨by omega, hi⟩))]
  have hnext : Keyed.get? (numberedKey family ((numberedValues family params).length + 1))
      (Keyed.erase key params) = none := by
    rw [Keyed.get?_erase, ← numberedValues_getElem? (Nat.le_refl _),
      List.getElem?_eq_none (Nat.le_refl _), ite_self]
  have hlength : (numberedValues family (Keyed.erase key params)).length =
      (numberedValues family params).length := by
    apply isGreatest_length.unique
    constructor
    · intro i hi hle
      obtain ⟨i, rfl⟩ := Nat.exists_eq_add_of_le' hi
      rw [hsame (by omega), ← numberedValues_getElem? (by omega),
        List.getElem?_eq_getElem (by omega)]
      rfl
    · intro k hk
      by_contra hbeyond
      have hgiven := hk ((numberedValues family params).length + 1) (by omega) (by omega)
      rw [hnext] at hgiven
      cases hgiven
  apply List.ext_getElem?
  intro i
  by_cases hi : i < (numberedValues family params).length
  · rw [numberedValues_getElem? (by omega), numberedValues_getElem? (by omega), hsame hi]
  · rw [List.getElem?_eq_none (by omega), List.getElem?_eq_none (by omega)]

end ArticleTree.Stages
