import ArticleTree.Text.Affix

/-! # Beginnings and occurrences as prefixes and infixes -/

namespace ArticleTree.Text

theorem dropStart?_eq_some {start cs rest : List Char} :
    dropStart? start cs = some rest ↔ cs = start ++ rest := by
  fun_induction dropStart? start cs with
  | case1 cs => simp [eq_comm]
  | case2 a as => simp
  | case3 as c cs ih => simp [ih]
  | case4 a as c cs hne => simp [Ne.symm hne]

theorem isSome_dropStart? {start cs : List Char} :
    (dropStart? start cs).isSome = true ↔ start <+: cs := by
  rw [Option.isSome_iff_exists]
  exact exists_congr fun rest => dropStart?_eq_some.trans eq_comm

theorem occursIn_iff {needle cs : List Char} :
    occursIn needle cs = true ↔ needle <:+: cs := by
  induction cs with
  | nil => simp [occursIn]
  | cons c cs ih =>
      rw [occursIn, Bool.or_eq_true, isSome_dropStart?, ih, List.infix_cons_iff]

theorem beginsWith_iff {start s : String} :
    beginsWith start s = true ↔ start.toList <+: s.toList :=
  isSome_dropStart?

theorem contains_iff {needle s : String} :
    contains needle s = true ↔ needle.toList <:+: s.toList :=
  occursIn_iff

theorem dropEnding?_eq_some {ending cs rest : List Char} :
    dropEnding? ending cs = some rest ↔ cs = rest ++ ending := by
  rw [dropEnding?, Option.map_eq_some_iff]
  constructor
  · rintro ⟨found, hfound, rfl⟩
    rw [← List.reverse_inj, dropStart?_eq_some.1 hfound, List.reverse_append, List.reverse_reverse]
  · rintro rfl
    exact ⟨rest.reverse, dropStart?_eq_some.2 List.reverse_append, List.reverse_reverse rest⟩

theorem exists_of_prefix {start s : String} (h : start.toList <+: s.toList) :
    ∃ rest, s = start ++ rest := by
  obtain ⟨rest, hrest⟩ := h
  refine ⟨.ofList rest, ?_⟩
  rw [← String.toList_inj, String.toList_append, String.toList_ofList, hrest]

theorem exists_of_suffix {ending s : String} (h : ending.toList <:+ s.toList) :
    ∃ rest, s = rest ++ ending := by
  obtain ⟨rest, hrest⟩ := h
  refine ⟨.ofList rest, ?_⟩
  rw [← String.toList_inj, String.toList_append, String.toList_ofList, hrest]

theorem withoutStart_append (start s : String) : withoutStart start (start ++ s) = s := by
  rw [withoutStart, withoutStart?, dropStart?_eq_some.2 String.toList_append, Option.map_some,
    Option.getD_some, String.ofList_toList]

theorem withoutStart_of_not {start s : String} (h : ¬ start.toList <+: s.toList) :
    withoutStart start s = s := by
  have hnone : dropStart? start.toList s.toList = none := by
    rw [Option.eq_none_iff_forall_ne_some]
    intro rest hrest
    exact h ⟨rest, (dropStart?_eq_some.1 hrest).symm⟩
  rw [withoutStart, withoutStart?, hnone]
  rfl

theorem withoutEnding_append (ending s : String) : withoutEnding ending (s ++ ending) = s := by
  rw [withoutEnding, dropEnding?_eq_some.2 String.toList_append, Option.map_some,
    Option.getD_some, String.ofList_toList]

theorem withoutEnding_of_not {ending s : String} (h : ¬ ending.toList <:+ s.toList) :
    withoutEnding ending s = s := by
  have hnone : dropEnding? ending.toList s.toList = none := by
    rw [Option.eq_none_iff_forall_ne_some]
    intro rest hrest
    exact h ⟨rest, (dropEnding?_eq_some.1 hrest).symm⟩
  rw [withoutEnding, hnone]
  rfl

/-- Joined texts are the first, and the others with the mark before each. -/
theorem intercalate_cons (mark : Char) (text : List Char) (texts : List (List Char)) :
    List.intercalate [mark] (text :: texts) = text ++ texts.flatMap (mark :: ·) := by
  induction texts generalizing text with
  | nil => simp
  | cons next texts ih => simp [ih]

theorem cutAt?_eq_none {mark : Char} {cs : List Char} : cutAt? mark cs = none ↔ mark ∉ cs := by
  induction cs with
  | nil => simp [cutAt?]
  | cons c cs ih =>
      rw [cutAt?]
      split
      · rename_i heq
        simp [heq]
      · rename_i hne
        simp [ih, Ne.symm hne]

/-- A text is cut at the first mark. -/
theorem cutAt?_eq_some {mark : Char} {cs before after : List Char}
    (h : cutAt? mark cs = some (before, after)) :
    mark ∉ before ∧ cs = before ++ mark :: after := by
  induction cs generalizing before with
  | nil => cases h
  | cons c cs ih =>
      rw [cutAt?] at h
      split at h
      · rename_i heq
        cases h
        exact ⟨List.not_mem_nil, heq ▸ rfl⟩
      · rename_i hne
        obtain ⟨⟨first, rest⟩, hcut, heq⟩ := Option.map_eq_some_iff.1 h
        cases heq
        obtain ⟨hfirst, rfl⟩ := ih hcut
        refine ⟨?_, rfl⟩
        rw [List.mem_cons, not_or]
        exact ⟨Ne.symm hne, hfirst⟩

end ArticleTree.Text
