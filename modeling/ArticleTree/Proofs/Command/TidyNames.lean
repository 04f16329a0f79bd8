import ArticleTree.Proofs.Command.FileNames
import ArticleTree.Proofs.Text.Lower
import Mathlib.Data.List.DropRight

/-! # What the names of files look like

A name is put together from the title character by character: one that stands in words is kept,
and any other becomes an underscore, unless nothing or an underscore is the last that was
written. An underscore at the end is taken away again. What is left are words with one underscore
between two of them, and since no character of a name is changed when the name is made once more,
a name is its own name.
-/

namespace ArticleTree

/-- The character is a control character. -/
def Text.isControl (c : Char) : Bool :=
  c.toNat < 0x20 || 0x7f ≤ c.toNat && c.toNat < 0xa0

namespace Command

/-! ## Words -/

theorem wordsOf_append_cons {c : Char} (hc : isWordChar c = false) (cs ds : List Char) :
    wordsOf (cs ++ c :: ds) = wordsOf cs ++ wordsOf ds := by
  rw [wordsOf, List.splitOnP_append_cons cs ds (by simp [hc]), List.filter_append]
  rfl

theorem wordsOf_cons {c : Char} (hc : isWordChar c = false) (cs : List Char) :
    wordsOf (c :: cs) = wordsOf cs :=
  wordsOf_append_cons hc [] cs

theorem isWordChar_underscore : isWordChar '_' = false := by decide +kernel

/-- No range of letters and numbers reaches to the characters that mean something in a path, or
    to control characters. -/
theorem lettersAndNumbers_plain : ∀ range ∈ Text.lettersAndNumbers, 0x30 ≤ range.1 ∧
    (range.2 < 0x5c ∨ 0x5c < range.1 ∧ range.2 < 0x7f ∨ 0xa0 ≤ range.1) := by
  decide +kernel

/-- What names are made of means nothing in a path, and is no control character. -/
theorem plain_of_isWordChar_or {c : Char} (h : isWordChar c = true ∨ c = '_') :
    c ≠ '/' ∧ c ≠ '\\' ∧ c ≠ '.' ∧ Text.isControl c = false := by
  rcases h with hword | rfl
  · rw [isWordChar, Bool.or_eq_true, beq_iff_eq] at hword
    rcases hword with hletter | rfl
    · obtain ⟨⟨first, last⟩, hmem, hrange⟩ := List.any_eq_true.1 hletter
      have hplain := lettersAndNumbers_plain _ hmem
      simp only [Bool.and_eq_true, decide_eq_true_eq] at hrange hplain
      have hne : ∀ d : Char, d.toNat < 0x30 ∨ d.toNat = 0x5c → c ≠ d := by
        rintro d hd rfl
        omega
      refine ⟨hne '/' (by decide), hne '\\' (by decide), hne '.' (by decide), ?_⟩
      simp only [Text.isControl, Bool.or_eq_false_iff, Bool.and_eq_false_iff,
        decide_eq_false_iff_not]
      omega
    · decide
  · decide

/-- Underscores at the end belong to no word. -/
theorem wordsOf_append_underscores (cs : List Char) {ds : List Char} (h : ∀ d ∈ ds, d = '_') :
    wordsOf (cs ++ ds) = wordsOf cs := by
  have hnone : wordsOf ds = [] := by
    induction ds with
    | nil => rfl
    | cons d ds ih =>
        obtain ⟨rfl, hds⟩ := List.forall_mem_cons.1 h
        rw [wordsOf_cons isWordChar_underscore, ih hds]
  cases ds with
  | nil => rw [List.append_nil]
  | cons d ds =>
      obtain ⟨rfl, hds⟩ := List.forall_mem_cons.1 h
      rw [wordsOf_cons isWordChar_underscore] at hnone
      rw [wordsOf_append_cons isWordChar_underscore, hnone, List.append_nil]

/-! ## Words with one underscore between two of them -/

/-- A name as it is while it is written: an underscore may still be at its end. -/
structure IsBegun (cs : List Char) : Prop where
  chars : ∀ c ∈ cs, isWordChar c = true ∨ c = '_'
  start : cs.head? ≠ some '_'
  noDouble : ¬ ['_', '_'] <:+: cs

/-- A name has words with one underscore between two of them, and nothing else. -/
structure IsTidy (cs : List Char) : Prop extends IsBegun cs where
  ending : cs.getLast? ≠ some '_'

theorem IsTidy.nil : IsTidy [] where
  chars := by simp
  start := by simp
  noDouble := by simp
  ending := by simp

theorem IsBegun.of_prefix {cs ds : List Char} (h : IsBegun ds) (hstarts : cs <+: ds) :
    IsBegun cs where
  chars c hc := h.chars c (hstarts.subset hc)
  start := by
    intro hstart
    obtain ⟨rest, rfl⟩ := hstarts
    exact h.start (by rw [List.head?_append, hstart, Option.some_or])
  noDouble hdouble := h.noDouble (hdouble.trans hstarts.isInfix)

/-- Two characters in a row are in a text that has one more at its end if they are in the text,
    or if they are its last one and that one. -/
theorem infix_concat {c d x : Char} {cs : List Char} (h : [c, d] <:+: cs ++ [x]) :
    [c, d] <:+: cs ∨ d = x ∧ cs.getLast? = some c := by
  rcases List.infix_concat_iff.1 h with hsuffix | hinfix
  · right
    obtain ⟨before, hbefore⟩ := hsuffix
    have hconcat : (before ++ [c]) ++ [d] = cs ++ [x] := by
      rw [List.append_assoc]
      exact hbefore
    obtain ⟨rfl, hd⟩ := List.append_inj' hconcat rfl
    exact ⟨by simpa using hd, List.getLast?_concat⟩
  · exact .inl hinfix

/-- Between underscores there is always something. -/
theorem IsTidy.nil_not_mem_splitOn {cs : List Char} (h : IsTidy cs) (hcs : cs ≠ []) :
    [] ∉ cs.splitOn '_' := by
  intro hmem
  obtain ⟨before, after, hsplit⟩ := List.append_of_mem hmem
  have hjoin : cs = List.intercalate ['_'] (before ++ [] :: after) := by
    rw [← hsplit, List.intercalate_splitOn]
  cases before with
  | nil =>
      rw [List.nil_append, Text.intercalate_cons, List.nil_append] at hjoin
      cases after with
      | nil => exact hcs hjoin
      | cons piece after => exact h.start (by rw [hjoin]; rfl)
  | cons first before =>
      rw [List.cons_append, Text.intercalate_cons, List.flatMap_append, List.flatMap_cons] at hjoin
      cases after with
      | nil => exact h.ending (by simp [hjoin])
      | cons piece after =>
          refine h.noDouble
            ⟨first ++ before.flatMap ('_' :: ·), piece ++ after.flatMap ('_' :: ·), ?_⟩
          rw [hjoin]
          simp

theorem splitOnP_congr {p q : Char → Bool} {cs : List Char} (h : ∀ c ∈ cs, p c = q c) :
    cs.splitOnP p = cs.splitOnP q := by
  induction cs with
  | nil => simp
  | cons c cs ih =>
      obtain ⟨hc, hcs⟩ := List.forall_mem_cons.1 h
      rw [List.splitOnP_cons_eq_if_modifyHead, List.splitOnP_cons_eq_if_modifyHead, hc, ih hcs]

/-- The words of a tidy name are what stands between its underscores. -/
theorem IsTidy.intercalate_wordsOf {cs : List Char} (h : IsTidy cs) :
    List.intercalate ['_'] (wordsOf cs) = cs := by
  by_cases hcs : cs = []
  · rw [hcs]
    rfl
  · have hsplit : (cs.splitOnP fun c => !isWordChar c) = cs.splitOn '_' := by
      rw [List.splitOn_eq_splitOnP]
      refine splitOnP_congr fun c hc => ?_
      rcases h.chars c hc with hword | rfl
      · have hne : c ≠ '_' := by
          rintro rfl
          rw [isWordChar_underscore] at hword
          cases hword
        simp [hword, hne]
      · simp [isWordChar_underscore]
    have hwords : wordsOf cs = cs.splitOn '_' := by
      rw [wordsOf, hsplit, List.filter_eq_self]
      intro piece hpiece
      have hne : piece ≠ [] := by
        rintro rfl
        exact h.nil_not_mem_splitOn hcs hpiece
      simpa using hne
    rw [hwords, List.intercalate_splitOn]

/-! ## Character by character -/

/-- Write a name on with one character. -/
def emit (name : List Char) (c : Char) : List Char :=
  if isWordChar c then name ++ [c]
  else if name.getLast? = some '_' ∨ name = [] then name
  else name ++ ['_']

/-- A name is written on as it was begun. -/
theorem IsBegun.emit {name : List Char} (h : IsBegun name) (c : Char) :
    IsBegun (Command.emit name c) := by
  rw [Command.emit]
  split_ifs with hword hlast
  · have hne : '_' ≠ c := by
      rintro rfl
      rw [isWordChar_underscore] at hword
      cases hword
    refine ⟨?_, ?_, ?_⟩
    · simpa [or_imp, forall_and, hword] using h.chars
    · rw [List.head?_append, Ne, Option.or_eq_some_iff]
      rintro (hstart | ⟨-, hstart⟩)
      · exact h.start hstart
      · exact hne (by simpa using hstart.symm)
    · intro hdouble
      rcases infix_concat hdouble with hdouble | ⟨heq, -⟩
      · exact h.noDouble hdouble
      · exact hne heq
  · exact h
  · rw [not_or] at hlast
    refine ⟨?_, ?_, ?_⟩
    · simpa [or_imp, forall_and] using h.chars
    · rw [List.head?_append, Ne, Option.or_eq_some_iff]
      rintro (hstart | ⟨hnone, -⟩)
      · exact h.start hstart
      · exact hlast.2 (List.head?_eq_none_iff.1 hnone)
    · intro hdouble
      rcases infix_concat hdouble with hdouble | ⟨-, hdouble⟩
      · exact h.noDouble hdouble
      · exact hlast.1 hdouble

theorem IsBegun.foldl_emit {name : List Char} (h : IsBegun name) (cs : List Char) :
    IsBegun (cs.foldl Command.emit name) := by
  induction cs generalizing name with
  | nil => exact h
  | cons c cs ih => exact ih (h.emit c)

/-- What is written has the words of what was read. -/
theorem wordsOf_foldl_emit (name cs : List Char) :
    wordsOf (cs.foldl emit name) = wordsOf (name ++ cs) := by
  induction cs generalizing name with
  | nil => rw [List.foldl_nil, List.append_nil]
  | cons c cs ih =>
      rw [List.foldl_cons, ih, emit]
      split_ifs with hword hlast
      · rw [List.append_assoc, List.singleton_append]
      · rw [Bool.not_eq_true] at hword
        rw [wordsOf_append_cons hword]
        rcases hlast with hlast | rfl
        · obtain ⟨before, rfl⟩ := List.getLast?_eq_some_iff.1 hlast
          rw [List.append_assoc, List.singleton_append, wordsOf_append_cons isWordChar_underscore,
            wordsOf_append_underscores before (by simp)]
        · rfl
      · rw [Bool.not_eq_true] at hword
        rw [List.append_assoc, List.singleton_append, wordsOf_append_cons isWordChar_underscore,
          wordsOf_append_cons hword]

/-- Without the underscores at its end, a name that was begun is tidy. -/
theorem IsBegun.isTidy_rdropWhile {name : List Char} (h : IsBegun name) :
    IsTidy (name.rdropWhile (· == '_')) where
  toIsBegun := h.of_prefix (List.rdropWhile_prefix _ _)
  ending := by
    intro hlast
    have hne := List.ne_nil_of_mem (List.mem_of_getLast? hlast)
    have hdropped := List.rdropWhile_last_not _ _ hne
    rw [(List.getLast_eq_iff_getLast?_eq_some hne).2 hlast] at hdropped
    exact hdropped rfl

theorem wordsOf_rdropWhile (name : List Char) :
    wordsOf (name.rdropWhile (· == '_')) = wordsOf name := by
  conv_rhs => rw [← List.rdropWhile_append_rtakeWhile (p := (· == '_')) (l := name)]
  refine (wordsOf_append_underscores _ fun d hd => ?_).symm
  exact beq_iff_eq.1 (List.mem_rtakeWhile_imp (p := (· == '_')) hd)

/-- A slug is written character by character. -/
theorem toList_slug_eq_foldl (title : String) : (slug title).toList =
    ((title.toList.flatMap Text.lower).foldl emit []).rdropWhile (· == '_') := by
  have htidy := (IsTidy.nil.toIsBegun.foldl_emit
    (title.toList.flatMap Text.lower)).isTidy_rdropWhile
  rw [← htidy.intercalate_wordsOf, wordsOf_rdropWhile, wordsOf_foldl_emit, List.nil_append,
    toList_slug]
  rfl

theorem isTidy_slug (title : String) : IsTidy (slug title).toList := by
  rw [toList_slug_eq_foldl]
  exact (IsTidy.nil.toIsBegun.foldl_emit _).isTidy_rdropWhile

example : slug " ../Folgen: \t__Ü?\\" = "folgen_ü" := by decide +kernel

/-! ## The name of a name -/

theorem mem_foldl_emit {name cs : List Char} {c : Char} (h : c ∈ cs.foldl emit name) :
    c ∈ name ∨ c ∈ cs ∨ c = '_' := by
  induction cs generalizing name with
  | nil => exact .inl h
  | cons d cs ih =>
      rcases ih h with hname | hcs
      · rw [emit] at hname
        split_ifs at hname with hword hlast
        · rcases List.mem_append.1 hname with hname | hd
          · exact .inl hname
          · rw [List.mem_singleton.1 hd]
            exact .inr (.inl (List.mem_cons_self ..))
        · exact .inl hname
        · rcases List.mem_append.1 hname with hname | hd
          · exact .inl hname
          · exact .inr (.inr (List.mem_singleton.1 hd))
      · exact .inr (hcs.imp_left (List.mem_cons_of_mem d))

/-- The characters of a slug stay as they are in lower case. -/
theorem lower_of_mem_slug {title : String} {c : Char} (h : c ∈ (slug title).toList) :
    Text.lower c = [c] := by
  rw [toList_slug_eq_foldl] at h
  rcases mem_foldl_emit ((List.rdropWhile_prefix _ _).subset h) with hnone | hlower | rfl
  · cases hnone
  · obtain ⟨_, _, hmem⟩ := List.mem_flatMap.1 hlower
    exact Text.lower_of_mem_lower hmem
  · decide +kernel

theorem slug_slug (title : String) : slug (slug title) = slug title := by
  have hlower : (slug title).toList.flatMap Text.lower = (slug title).toList := by
    rw [List.flatMap_congr fun c hc => lower_of_mem_slug hc, List.flatMap_singleton']
  rw [← String.toList_inj, toList_slug, titleWords, hlower, (isTidy_slug title).intercalate_wordsOf]

end Command

end ArticleTree
