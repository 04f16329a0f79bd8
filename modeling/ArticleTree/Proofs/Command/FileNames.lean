import ArticleTree.Command.Slug
import ArticleTree.Proofs.Disk.Directory
import ArticleTree.Proofs.Text.Affix

/-! # The names that titles give to files

A file name tells the words of a title in lower case, and nothing else of it. So two titles
give one name to their files if and only if they have these words in common.
-/

namespace ArticleTree.Command

/-- The words of a title, in lower case. -/
def titleWords (title : String) : List (List Char) :=
  wordsOf (title.toList.flatMap Text.lower)

theorem toList_slug (title : String) :
    (slug title).toList = List.intercalate ['_'] (titleWords title) :=
  String.toList_ofList

theorem forall_mem_splitOnP {p : Char → Bool} (cs : List Char) :
    ∀ word ∈ cs.splitOnP p, ∀ c ∈ word, p c = false := by
  induction cs with
  | nil => simp
  | cons c cs ih =>
      rw [List.splitOnP_cons_eq_if_modifyHead]
      split
      · simpa using ih
      · rename_i hc
        cases hwords : cs.splitOnP p with
        | nil => exact absurd hwords (List.splitOnP_ne_nil p cs)
        | cons word words =>
            rw [hwords, List.forall_mem_cons] at ih
            rw [List.modifyHead_cons, List.forall_mem_cons, List.forall_mem_cons]
            exact ⟨⟨by simpa using hc, ih.1⟩, ih.2⟩

/-- Words are made of word characters, at least one. -/
theorem word_of_mem {title : String} {word : List Char} (h : word ∈ titleWords title) :
    word ≠ [] ∧ ∀ c ∈ word, isWordChar c = true := by
  obtain ⟨hsplit, hword⟩ := List.mem_filter.1 h
  refine ⟨by simpa using hword, fun c hc => ?_⟩
  simpa using forall_mem_splitOnP _ word hsplit c hc

/-- What stands between words is in none of them. -/
theorem underscore_not_mem {title : String} {word : List Char} (h : word ∈ titleWords title) :
    '_' ∉ word := by
  intro hmem
  have hchar := (word_of_mem h).2 '_' hmem
  revert hchar
  decide +kernel

/-- The words can be read off the slug. -/
theorem titleWords_eq (title : String) :
    titleWords title = ((slug title).toList.splitOn '_').filter fun word => !word.isEmpty := by
  rw [toList_slug]
  by_cases hnone : titleWords title = []
  · rw [hnone]
    rfl
  · rw [List.splitOn_intercalate '_' (fun _ => underscore_not_mem) hnone, eq_comm,
      List.filter_eq_self]
    intro word hword
    simpa using (word_of_mem hword).1

theorem slug_inj {title other : String} :
    slug title = slug other ↔ titleWords title = titleWords other := by
  constructor
  · intro h
    rw [titleWords_eq, titleWords_eq, h]
  · intro h
    rw [← String.toList_inj, toList_slug, toList_slug, h]

/-- A slug is made of the characters of words, and of what stands between words. -/
theorem isWordChar_of_mem_slug {title : String} {c : Char} (h : c ∈ (slug title).toList) :
    isWordChar c = true ∨ c = '_' := by
  rw [toList_slug] at h
  have hwords : ∀ word ∈ titleWords title, ∀ c ∈ word, isWordChar c = true :=
    fun _ hword => (word_of_mem hword).2
  cases hall : titleWords title with
  | nil =>
      rw [hall] at h
      cases h
  | cons word words =>
      rw [hall, List.forall_mem_cons] at hwords
      rw [hall, Text.intercalate_cons, List.mem_append, List.mem_flatMap] at h
      rcases h with hword | ⟨next, hnext, hmem⟩
      · exact .inl (hwords.1 c hword)
      · rcases List.mem_cons.1 hmem with rfl | hmem
        · exact .inr rfl
        · exact .inl (hwords.2 next hnext c hmem)

/-- The name of the file that an article goes to. -/
def fileName (title : String) : String :=
  slug title ++ ".json"

theorem toList_fileName (title : String) :
    (fileName title).toList = (slug title).toList ++ ".json".toList :=
  String.toList_append

theorem isName_fileName (title : String) : Path.IsName (fileName title) := by
  have hlong : ∀ name : String, name.toList.length < 5 → fileName title ≠ name := by
    intro name hshort heq
    rw [← heq, toList_fileName, List.length_append] at hshort
    exact absurd hshort (by simp)
  refine ⟨?_, hlong "" (by decide), hlong "." (by decide), hlong ".." (by decide)⟩
  rw [toList_fileName, List.mem_append, not_or]
  refine ⟨?_, by decide⟩
  intro hslash
  rcases isWordChar_of_mem_slug hslash with hword | heq
  · exact absurd hword (by decide +kernel)
  · exact absurd heq (by decide)

theorem fileName_inj {title other : String} :
    fileName title = fileName other ↔ titleWords title = titleWords other :=
  (String.append_left_inj ".json").trans slug_inj

/-- A file system takes the name. -/
def Fits (title : String) : Prop :=
  (fileName title).utf8ByteSize ≤ 255

instance (title : String) : Decidable (Fits title) :=
  inferInstanceAs (Decidable (_ ≤ _))

end ArticleTree.Command
