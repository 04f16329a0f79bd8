import ArticleTree.Proofs.Command.FileNames
import ArticleTree.Proofs.Command.History
import Mathlib.Data.List.TakeWhile

/-! # Files that are written more than once

A file holds the last of the articles that went to it. So an article whose words are those of a
later title is lost.
-/

namespace ArticleTree.Command

/-- What stands at a name of a directory after articles went to their files, one after the other,
    given what stood there before. -/
def filed (name : String) : (articles : List Article) → (before : Option DiskEntry) →
    Option DiskEntry
  | [], before => before
  | article :: articles, before =>
      filed name articles
        (if fileName article.title = name then some (.file article.render.toUTF8) else before)

theorem filed_of_forall_ne {name : String} {articles : List Article}
    (h : ∀ article ∈ articles, fileName article.title ≠ name) (before : Option DiskEntry) :
    filed name articles before = before := by
  induction articles with
  | nil => rfl
  | cons article articles ih =>
      rw [List.forall_mem_cons] at h
      rw [filed, if_neg h.1, ih h.2]

/-- A file that was not there before holds one of the articles. -/
theorem exists_of_filed {name : String} {articles : List Article} {before : Option DiskEntry}
    {entry : DiskEntry} (h : filed name articles before = some entry) :
    before = some entry ∨ ∃ article ∈ articles,
      fileName article.title = name ∧ entry = .file article.render.toUTF8 := by
  induction articles generalizing before with
  | nil => exact .inl h
  | cons article articles ih =>
      rcases ih h with hbefore | ⟨other, hmem, hother⟩
      · split at hbefore
        · rename_i hname
          cases hbefore
          exact .inr ⟨article, List.mem_cons_self, hname, rfl⟩
        · exact .inl hbefore
      · exact .inr ⟨other, List.mem_cons_of_mem _ hmem, hother⟩

/-- An article whose name no other one has is found in its file. -/
theorem filed_of_mem {articles : List Article}
    (h : articles.Pairwise fun a b => fileName a.title ≠ fileName b.title) {article : Article}
    (hmem : article ∈ articles) (before : Option DiskEntry) :
    filed (fileName article.title) articles before = some (.file article.render.toUTF8) := by
  induction articles generalizing before with
  | nil => cases hmem
  | cons first articles ih =>
      obtain ⟨hfirst, hrest⟩ := List.pairwise_cons.1 h
      rw [filed]
      rcases List.mem_cons.1 hmem with rfl | hmem
      · rw [if_pos rfl]
        exact filed_of_forall_ne (fun other hother => (hfirst other hother).symm) _
      · exact ih hrest hmem _

/-- A file that some of the articles go to holds one of these. -/
theorem filed_of_exists {name : String} {articles : List Article}
    (h : ∃ article ∈ articles, fileName article.title = name) (before : Option DiskEntry) :
    ∃ article ∈ articles,
      filed name articles before = some (.file article.render.toUTF8) := by
  induction articles generalizing before with
  | nil =>
      obtain ⟨_, hmem, _⟩ := h
      cases hmem
  | cons first articles ih =>
      rw [filed]
      by_cases hlater : ∃ article ∈ articles, fileName article.title = name
      · obtain ⟨article, hmem, hfiled⟩ := ih hlater _
        exact ⟨article, List.mem_cons_of_mem _ hmem, hfiled⟩
      · have hnone : ∀ article ∈ articles, fileName article.title ≠ name :=
          fun article hmem heq => hlater ⟨article, hmem, heq⟩
        obtain ⟨article, hmem, hname⟩ := h
        rcases List.mem_cons.1 hmem with rfl | hmem
        · exact ⟨article, List.mem_cons_self, by rw [if_pos hname, filed_of_forall_ne hnone]⟩
        · exact absurd hname (hnone article hmem)

/-- The text of an article tells its title. -/
theorem title_eq_of_render_eq {a b : Article} (h : a.render.toUTF8 = b.render.toUTF8) :
    a.title = b.title := by
  obtain ⟨cs, hcs⟩ := toList_render a
  obtain ⟨ds, hds⟩ := toList_render b
  have htext : a.render.toList = b.render.toList := by rw [String.toByteArray_inj.1 h]
  rw [hcs, hds, List.append_cancel_left_eq] at htext
  exact Json.eq_of_printed_append htext

/-- An article is found nowhere if one after it has the same words in another title. -/
theorem filed_ne_of_overwritten {article : Article} {articles : List Article}
    (hwords : ∃ other ∈ articles, titleWords other.title = titleWords article.title)
    (htitle : ∀ other ∈ articles, other.title ≠ article.title) (name : String) :
    filed name (article :: articles) none ≠ some (.file article.render.toUTF8) := by
  intro h
  rw [filed] at h
  split at h
  · rename_i hname
    obtain ⟨later, hlater, hsame⟩ := hwords
    have hthere : ∃ other ∈ articles, fileName other.title = name :=
      ⟨later, hlater, (fileName_inj.2 hsame).trans hname⟩
    obtain ⟨other, hmem, hfiled⟩ := filed_of_exists hthere (some (.file article.render.toUTF8))
    rw [hfiled, Option.some.injEq, DiskEntry.file.injEq] at h
    exact htitle other hmem (title_eq_of_render_eq h)
  · obtain hnone | ⟨other, hmem, _, hentry⟩ := exists_of_filed h
    · cases hnone
    · rw [DiskEntry.file.injEq] at hentry
      exact htitle other hmem (title_eq_of_render_eq hentry).symm

/-- Of articles with different titles, all are found in files if and only if no two have the same
    words in their titles and each title fits. -/
theorem forall_filed_iff {articles : List Article} (htitles : (articles.map Article.title).Nodup) :
    (∀ article ∈ articles, ∃ name, filed name (articles.takeWhile fun a => Fits a.title) none =
        some (.file article.render.toUTF8)) ↔
      ((articles.map Article.title).map titleWords).Nodup ∧
        ∀ title ∈ articles.map Article.title, Fits title := by
  simp only [List.forall_mem_map]
  constructor
  · intro h
    have hfound : ∀ article ∈ articles, Fits article.title ∧
        filed (fileName article.title) (articles.takeWhile fun a => Fits a.title) none =
          some (.file article.render.toUTF8) := by
      intro article hmem
      obtain ⟨name, hname⟩ := h article hmem
      obtain hnone | ⟨other, hother, rfl, hentry⟩ := exists_of_filed hname
      · cases hnone
      · -- A text tells its title, so what was found is the file of this article.
        rw [DiskEntry.file.injEq] at hentry
        have htitle : article.title = other.title := title_eq_of_render_eq hentry
        rw [htitle]
        exact ⟨by simpa using List.mem_takeWhile_imp hother, hname⟩
    refine ⟨?_, fun article hmem => (hfound article hmem).1⟩
    refine htitles.map_on ?_
    simp only [List.forall_mem_map]
    intro a ha b hb hwords
    have hsame := (hfound a ha).2
    rw [fileName_inj.2 hwords, (hfound b hb).2, Option.some.injEq, DiskEntry.file.injEq] at hsame
    exact (title_eq_of_render_eq hsame).symm
  · rintro ⟨hwords, hfits⟩ article hmem
    have hall : (articles.takeWhile fun a => Fits a.title) = articles := by
      rw [List.takeWhile_eq_self_iff]
      simpa using hfits
    have hnames : articles.Pairwise fun a b => fileName a.title ≠ fileName b.title := by
      rw [List.map_map] at hwords
      exact (List.pairwise_map.1 hwords).imp fun hne heq => hne (fileName_inj.1 heq)
    rw [hall]
    exact ⟨fileName article.title, filed_of_mem hnames hmem none⟩

end ArticleTree.Command
