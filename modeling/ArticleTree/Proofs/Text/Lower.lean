import ArticleTree.Text.Letter

/-! # Lower case

What a character is made into when it is put into lower case is in lower case: no run of
characters that have a lower case of their own holds a lower case of a character.
-/

namespace ArticleTree.Text

/-- A run of characters as `lowerRuns` has them. -/
abbrev LowerRun := Nat × Nat × Nat × Nat

/-- The last of the lower cases of a run. -/
def LowerRun.lastTarget (run : LowerRun) : Nat :=
  run.2.2.2 + (run.2.1 - run.1)

/-- No lower case of the first run is in the second: it ends before that begins, or begins after
    that ends, or both go on in steps of two, with one of them even and the other odd, or it is
    one character only, which the second steps over. -/
def LowerRun.isApart (run other : LowerRun) : Bool :=
  Nat.blt run.lastTarget other.1 || (Nat.blt other.2.1 run.2.2.2 ||
    (run.2.2.1 == 2 && other.2.2.1 == 2 && (run.2.2.2 + other.1) % 2 == 1 ||
      run.1 == run.2.1 && (run.2.2.2 - other.1) % other.2.2.1 != 0))

theorem lowerRuns_apart :
    ∀ run ∈ lowerRuns, ∀ other ∈ lowerRuns, LowerRun.isApart run other = true := by
  have hall : (lowerRuns.all fun run => lowerRuns.all (LowerRun.isApart run)) = true := by
    decide +kernel
  simpa only [List.all_eq_true] using hall

/-- The lower cases of a run are characters, and none is the capital I with a dot. -/
theorem lowerRuns_valid : ∀ run ∈ lowerRuns,
    (LowerRun.lastTarget run < 0xd800 ∨ 0xdfff < run.2.2.2 ∧ LowerRun.lastTarget run < 0x110000) ∧
      (LowerRun.lastTarget run < 0x130 ∨ 0x130 < run.2.2.2) := by
  decide +kernel

/-- The run holds the character with this number. -/
def LowerRun.holds (n : Nat) (run : LowerRun) : Bool :=
  run.1 ≤ n && n ≤ run.2.1 && (n - run.1) % run.2.2.1 == 0

theorem lower_eq (c : Char) : lower c =
    if c.toNat = 0x130 then ['i', '\u0307']
    else
      match lowerRuns.find? (LowerRun.holds c.toNat) with
      | some run => [Char.ofNat (run.2.2.2 + (c.toNat - run.1))]
      | none => [c] := by
  change (if _ then _ else match lowerRuns.find? (LowerRun.holds c.toNat) with
    | some (first, _, _, target) => [Char.ofNat (target + (c.toNat - first))]
    | none => [c]) = _
  cases lowerRuns.find? (LowerRun.holds c.toNat) <;> rfl

theorem LowerRun.holds_iff {n : Nat} {run : LowerRun} :
    run.holds n = true ↔ run.1 ≤ n ∧ n ≤ run.2.1 ∧ (n - run.1) % run.2.2.1 = 0 := by
  simp [holds, and_assoc]

theorem LowerRun.not_holds {run other : LowerRun} (h : run.isApart other = true) {n : Nat}
    (hn : run.holds n = true) : ¬ other.holds (run.2.2.2 + (n - run.1)) = true := by
  obtain ⟨first, last, step, target⟩ := run
  obtain ⟨first', last', step', target'⟩ := other
  rw [holds_iff] at hn ⊢
  simp only [isApart, lastTarget, Bool.or_eq_true, Bool.and_eq_true, Nat.blt_eq, beq_iff_eq,
    bne_iff_ne, and_assoc] at h hn ⊢
  rcases h with hbefore | hbehind | ⟨rfl, rfl, hodd⟩ | ⟨rfl, hover⟩
  · omega
  · omega
  · omega
  · obtain rfl : n = first := Nat.le_antisymm hn.2.1 hn.1
    rw [Nat.sub_self, Nat.add_zero]
    exact fun hholds => hover hholds.2.2

/-- A lower case is its own lower case. -/
theorem lower_of_mem_lower {c d : Char} (h : d ∈ lower c) : lower d = [d] := by
  rw [lower_eq] at h
  split at h
  · rcases List.mem_cons.1 h with rfl | h
    · decide +kernel
    · obtain rfl := List.mem_singleton.1 h
      decide +kernel
  · rename_i hdotted
    split at h
    · rename_i run hrun
      have hheld : run.holds c.toNat = true := List.find?_some hrun
      have hmem : run ∈ lowerRuns := List.mem_of_find?_eq_some hrun
      obtain ⟨hvalid, hplain⟩ := lowerRuns_valid run hmem
      have hbound := LowerRun.holds_iff.1 hheld
      simp only [LowerRun.lastTarget] at hvalid hplain
      rw [List.mem_singleton] at h
      have hnumber : d.toNat = run.2.2.2 + (c.toNat - run.1) := by
        have hchar : (run.2.2.2 + (c.toNat - run.1)).isValidChar := by
          rw [Nat.isValidChar]
          omega
        rw [h, Char.ofNat, dif_pos hchar]
        rfl
      have hnone : lowerRuns.find? (LowerRun.holds d.toNat) = none := by
        rw [List.find?_eq_none, hnumber]
        exact fun other hother => LowerRun.not_holds (lowerRuns_apart run hmem other hother) hheld
      rw [lower_eq, if_neg (by omega), hnone]
    · rename_i hnone
      rw [List.mem_singleton] at h
      rw [h, lower_eq, if_neg hdotted, hnone]

end ArticleTree.Text
