import ArticleTree.Text.Blank
import Mathlib.Data.List.DropRight

/-! # Words and blanks

Cutting blanks off and making runs of them one space touches no other character. Text whose
blanks are single spaces is left as it is.
-/

namespace ArticleTree.Text

/-- The characters that are not blank. -/
def solid (cs : List Char) : List Char :=
  cs.filter fun c => !isBlank c

theorem solid_append (xs ys : List Char) : solid (xs ++ ys) = solid xs ++ solid ys :=
  List.filter_append ..

theorem solid_eq_nil {cs : List Char} : solid cs = [] ↔ cs.all isBlank = true := by
  simp [solid, List.filter_eq_nil_iff]

theorem isBlankText_iff {s : String} : isBlankText s = true ↔ solid s.toList = [] :=
  solid_eq_nil.symm

theorem solid_of_none {cs : List Char} (h : ∀ c ∈ cs, isBlank c = false) : solid cs = cs := by
  simpa [solid, List.filter_eq_self] using h

theorem not_isBlank_of_mem_solid {cs : List Char} {c : Char} (h : c ∈ solid cs) :
    isBlank c = false := by
  simpa using (List.mem_filter.1 h).2

@[simp] theorem solid_solid (cs : List Char) : solid (solid cs) = solid cs :=
  solid_of_none fun _ => not_isBlank_of_mem_solid

/-! ## Cutting off -/

@[simp] theorem solid_dropBlanks (cs : List Char) : solid (dropBlanks cs) = solid cs := by
  induction cs with
  | nil => rfl
  | cons c cs ih =>
      rw [dropBlanks, List.dropWhile_cons]
      split
      · rename_i hc
        exact ih.trans (by simp [solid, hc])
      · rfl

/-- Cutting off stops at the first character that is not blank. -/
theorem dropBlanks_append {xs : List Char} (h : solid xs ≠ []) (ys : List Char) :
    dropBlanks (xs ++ ys) = dropBlanks xs ++ ys := by
  have hrest : (dropBlanks xs).isEmpty = false := by
    cases hdrop : dropBlanks xs with
    | nil =>
        rw [← solid_dropBlanks, hdrop] at h
        exact absurd rfl h
    | cons => rfl
  rw [dropBlanks, List.dropWhile_append, ← dropBlanks, hrest]
  rfl

theorem dropBlanks_eq_self {cs : List Char} (h : ∀ c ∈ cs.head?, isBlank c = false) :
    dropBlanks cs = cs := by
  cases cs with
  | nil => rfl
  | cons c cs =>
      rw [dropBlanks, List.dropWhile_cons_of_neg]
      simpa using h c rfl

theorem dropBlanksAtEnd_eq (cs : List Char) : dropBlanksAtEnd cs = cs.rdropWhile isBlank := by
  induction cs with
  | nil => rfl
  | cons c cs ih =>
      rw [dropBlanksAtEnd, ih, List.rdropWhile, List.rdropWhile, List.reverse_cons,
        List.dropWhile_append]
      cases cs.reverse.dropWhile isBlank with
      | nil => cases hc : isBlank c <;> simp [hc]
      | cons d ds => simp

@[simp] theorem dropBlanksAtEnd_idem (cs : List Char) :
    dropBlanksAtEnd (dropBlanksAtEnd cs) = dropBlanksAtEnd cs := by
  simp only [dropBlanksAtEnd_eq, List.rdropWhile_idempotent]

@[simp] theorem solid_dropBlanksAtEnd (cs : List Char) :
    solid (dropBlanksAtEnd cs) = solid cs := by
  have hreverse (ds : List Char) : solid ds.reverse = (solid ds).reverse := List.filter_reverse ..
  rw [dropBlanksAtEnd_eq, List.rdropWhile, hreverse, ← dropBlanks, solid_dropBlanks, hreverse,
    List.reverse_reverse]

theorem not_isBlank_head?_dropBlanks {cs : List Char} {c : Char}
    (h : c ∈ (dropBlanks cs).head?) : isBlank c = false := by
  have hnot := List.head?_dropWhile_not isBlank cs
  rw [← dropBlanks, Option.mem_def.1 h] at hnot
  simpa using hnot

theorem not_isBlank_getLast?_dropBlanksAtEnd {cs : List Char} {c : Char}
    (h : c ∈ (dropBlanksAtEnd cs).getLast?) : isBlank c = false := by
  rw [dropBlanksAtEnd_eq, List.rdropWhile, List.getLast?_reverse] at h
  exact not_isBlank_head?_dropBlanks h

theorem dropBlanksAtEnd_prefix (cs : List Char) : dropBlanksAtEnd cs <+: cs := by
  rw [dropBlanksAtEnd_eq]
  exact List.rdropWhile_prefix ..

theorem dropBlanksAtEnd_eq_self {cs : List Char} (h : ∀ c ∈ cs.getLast?, isBlank c = false) :
    dropBlanksAtEnd cs = cs := by
  rw [dropBlanksAtEnd_eq, List.rdropWhile_eq_self_iff]
  intro hne
  simpa using h _ (List.getLast?_eq_some_getLast hne)

theorem dropBlanks_append_of_blank {w : List Char} (hw : w.all isBlank = true) (cs : List Char) :
    dropBlanks (w ++ cs) = dropBlanks cs :=
  List.dropWhile_append_of_pos (List.all_eq_true.1 hw)

theorem dropBlanksAtEnd_append_of_blank (cs : List Char) {w : List Char}
    (hw : w.all isBlank = true) : dropBlanksAtEnd (cs ++ w) = dropBlanksAtEnd cs := by
  simp only [dropBlanksAtEnd_eq, List.rdropWhile, List.reverse_append]
  rw [List.dropWhile_append_of_pos]
  intro c hc
  exact List.all_eq_true.1 hw c (List.mem_reverse.1 hc)

theorem length_trim_le (s : String) : (trim s).length ≤ s.length := by
  rw [trim, String.length_ofList, ← String.length_toList]
  calc
    (dropBlanksAtEnd (dropBlanks s.toList)).length ≤ (dropBlanks s.toList).length :=
      List.IsPrefix.length_le <| dropBlanksAtEnd_prefix _
    _ ≤ s.toList.length := (List.dropWhile_suffix _).length_le

/-- No blank stands at either end. -/
structure Trimmed (s : String) : Prop where
  head : ∀ c ∈ s.toList.head?, isBlank c = false
  last : ∀ c ∈ s.toList.getLast?, isBlank c = false

theorem trim_of_trimmed {s : String} (h : Trimmed s) : trim s = s := by
  rw [trim, dropBlanks_eq_self h.head, dropBlanksAtEnd_eq_self h.last, String.ofList_toList]

theorem trimmed_trim (s : String) : Trimmed (trim s) := by
  have hlist : (trim s).toList = dropBlanksAtEnd (dropBlanks s.toList) := String.toList_ofList
  constructor
  · intro c hc
    rw [hlist] at hc
    have hprefix := dropBlanksAtEnd_prefix (dropBlanks s.toList)
    cases hkept : dropBlanksAtEnd (dropBlanks s.toList) with
    | nil => simp [hkept] at hc
    | cons d ds =>
        rw [hkept] at hc hprefix
        obtain rfl : d = c := by simpa using hc
        obtain ⟨rest, hrest⟩ := hprefix
        exact not_isBlank_head?_dropBlanks (by rw [← hrest]; rfl)
  · intro c hc
    rw [hlist] at hc
    exact not_isBlank_getLast?_dropBlanksAtEnd hc

theorem trimmed_iff {s : String} : Trimmed s ↔ trim s = s :=
  ⟨trim_of_trimmed, fun h => h ▸ trimmed_trim s⟩

instance (s : String) : Decidable (Trimmed s) :=
  decidable_of_iff _ trimmed_iff.symm

theorem trim_trim (s : String) : trim (trim s) = trim s :=
  trim_of_trimmed (trimmed_trim s)

/-- A text ends as what it was put together from last. -/
theorem getLast?_append_text {ending : String} (h : ending ≠ "") (start : String) :
    (start ++ ending).toList.getLast? = ending.toList.getLast? := by
  rw [← String.toList_inj.ne, String.toList_empty] at h
  rw [String.toList_append, List.getLast?_append_of_ne_nil _ h]

/-- A text between two others does not touch the ends. -/
theorem Trimmed.enclosing {s t : String} (hs : Trimmed s) (ht : Trimmed t) (hstart : s ≠ "")
    (hend : t ≠ "") (middle : String) : Trimmed (s ++ middle ++ t) := by
  constructor
  · intro c hc
    rw [← String.toList_inj.ne, String.toList_empty] at hstart
    rw [String.toList_append, String.toList_append, List.append_assoc,
      List.head?_append_of_ne_nil _ hstart] at hc
    exact hs.head c hc
  · intro c hc
    rw [getLast?_append_text hend] at hc
    exact ht.last c hc

/-- Blanks around a text are cut off, and no more. -/
theorem trim_surrounded {before s behind : String} (hbefore : isBlankText before = true)
    (hs : Trimmed s) (hbehind : isBlankText behind = true) :
    trim (before ++ s ++ behind) = s := by
  rw [trim, String.toList_append, String.toList_append, List.append_assoc,
    dropBlanks_append_of_blank hbefore]
  rw [← String.toList_inj, String.toList_ofList]
  cases htext : s.toList with
  | nil =>
      have hnone := dropBlanks_append_of_blank hbehind []
      rw [List.append_nil] at hnone
      rw [List.nil_append, hnone]
      rfl
  | cons c cs =>
      have hhead : ∀ d ∈ (c :: cs ++ behind.toList).head?, isBlank d = false := by
        have hc := hs.head
        rwa [htext] at hc
      have hlast := hs.last
      rw [htext] at hlast
      rw [dropBlanks_eq_self hhead, dropBlanksAtEnd_append_of_blank _ hbehind,
        dropBlanksAtEnd_eq_self hlast]

/-! ## One space for a run -/

@[simp] theorem solid_collapseFrom (inRun : Bool) (cs : List Char) :
    solid (collapseFrom inRun cs) = solid cs := by
  induction cs generalizing inRun with
  | nil => rfl
  | cons c cs ih =>
      have hspace (ds : List Char) : solid (' ' :: ds) = solid ds := rfl
      have hcons : solid (c :: cs) = if isBlank c then solid cs else c :: solid cs := by
        cases hc : isBlank c <;> simp [solid, hc]
      rw [collapseFrom, hcons]
      split
      · split
        · exact ih true
        · rw [hspace, ih]
      · rename_i hc
        rw [← ih false]
        simp [solid, hc]

/-- Of the blanks only spaces are left. -/
theorem eq_space_of_mem_collapseFrom {inRun : Bool} {cs : List Char} {c : Char}
    (h : c ∈ collapseFrom inRun cs) (hblank : isBlank c = true) : c = ' ' := by
  induction cs generalizing inRun with
  | nil => cases h
  | cons d cs ih =>
      rw [collapseFrom] at h
      split at h
      · split at h
        · exact ih h
        · rcases List.mem_cons.1 h with rfl | h
          · rfl
          · exact ih h
      · rename_i hd
        rcases List.mem_cons.1 h with rfl | h
        · exact absurd hblank hd
        · exact ih h

/-- The only blank is the space, and no two of them stand in a row. -/
structure Spaced (cs : List Char) : Prop where
  space : ∀ c ∈ cs, isBlank c = true → c = ' '
  single : cs.IsChain fun a b => ¬ (a = ' ' ∧ b = ' ')

theorem spaced_iff {cs : List Char} : Spaced cs ↔
    cs.all (fun c => !isBlank c || c == ' ') = true ∧
      cs.IsChain fun a b => ¬ (a = ' ' ∧ b = ' ') := by
  rw [List.all_eq_true]
  constructor
  · intro h
    exact ⟨by simpa [imp_iff_not_or] using h.space, h.single⟩
  · rintro ⟨hspace, hsingle⟩
    exact ⟨by simpa [imp_iff_not_or] using hspace, hsingle⟩

-- The list is searched, and not all characters.
instance (cs : List Char) : Decidable (Spaced cs) :=
  decidable_of_iff' _ spaced_iff

theorem collapseFrom_of_spaced {cs : List Char} (h : Spaced cs) (inRun : Bool)
    (hrun : inRun = true → cs.head? ≠ some ' ') : collapseFrom inRun cs = cs := by
  induction cs generalizing inRun with
  | nil => rfl
  | cons c cs ih =>
      have hrest : Spaced cs :=
        ⟨fun d hd => h.space d (List.mem_cons_of_mem _ hd), h.single.of_cons⟩
      rw [collapseFrom]
      cases hc : isBlank c with
      | false => rw [ih hrest false (by simp)]; rfl
      | true =>
          obtain rfl := h.space c List.mem_cons_self hc
          have hnext : cs.head? ≠ some ' ' := by
            cases cs with
            | nil => simp
            | cons d cs =>
                rintro hd
                cases hd
                exact (List.isChain_cons_cons.1 h.single).1 ⟨rfl, rfl⟩
          have hout : inRun = false := by
            cases inRun with
            | false => rfl
            | true => exact absurd rfl (hrun rfl)
          simp only [hout, if_true, Bool.false_eq_true, if_false, ih hrest true fun _ => hnext]

/-- What comes behind a text only has to know if that ends with a blank. -/
theorem collapseFrom_append (inRun : Bool) (xs ys : List Char) :
    collapseFrom inRun (xs ++ ys) =
      collapseFrom inRun xs ++ collapseFrom (xs.getLast?.elim inRun isBlank) ys := by
  induction xs generalizing inRun with
  | nil => rfl
  | cons c cs ih =>
      have hlast :
          (c :: cs).getLast?.elim inRun isBlank = cs.getLast?.elim (isBlank c) isBlank := by
        cases cs with
        | nil => rfl
        | cons d ds => simp [List.getLast?_cons]
      rw [List.cons_append, collapseFrom, collapseFrom, hlast]
      cases isBlank c <;> cases inRun <;> simp [ih]

theorem collapseFrom_of_head {cs : List Char} (h : ∀ c ∈ cs.head?, isBlank c = false)
    (inRun : Bool) : collapseFrom inRun cs = collapseFrom false cs := by
  cases cs with
  | nil => rfl
  | cons c cs =>
      have hc : isBlank c = false := h c rfl
      simp only [collapseFrom, hc, Bool.false_eq_true, if_false]

theorem collapseFrom_of_none {cs : List Char} (h : ∀ c ∈ cs, isBlank c = false)
    (inRun : Bool) : collapseFrom inRun cs = cs := by
  induction cs generalizing inRun with
  | nil => rfl
  | cons c cs ih =>
      have hrest := ih fun d hd => h d (List.mem_cons_of_mem _ hd)
      simp only [collapseFrom, h c List.mem_cons_self, hrest, Bool.false_eq_true, if_false]

end ArticleTree.Text
