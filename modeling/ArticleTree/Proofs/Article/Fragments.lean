import ArticleTree.Proofs.Article.Alike

/-! # Where fragments are taken out completely

Fragments are taken out after lists, figures, tables and formulas are made. The main statement
says of which parsed markup this leaves the same as taking them out of the markup itself.
-/

namespace ArticleTree

open Judgement Stages

/-- Taking out the fragments in the middle takes out all of this node. -/
inductive Clear : Place → Node → Prop where
  | text {place : Place} {data : String} : Clear place (.text data)
  /-- The fragment is an element when it is looked for. -/
  | fragment {place : Place} {n : Node} : isFragment n = true → claim? n = none → Clear place n
  /-- Children of a list make its items, so that none of them may be a fragment. -/
  | list {place : Place} {name : String} {attrs : Attributes} {children : Forest} :
      isFragment (.element name attrs children) = false →
      claim? (.element name attrs children) = some .list →
      (∀ c ∈ children, isFragment c = false) →
      (∀ c ∈ children, ∀ n ∈ listItem c, Clear place n) →
      Clear place (.element name attrs children)
  /-- No file is found among the children, with the fragments or without. -/
  | fileless {place : Place} {name : String} {attrs : Attributes} {children : Forest} :
      isFragment (.element name attrs children) = false →
      claim? (.element name attrs children) = some .figure →
      figureFile? children = none → figureFile? (prune children) = none →
      Clear place (.element name attrs children)
  | figure {place : Place} {name : String} {attrs : Attributes} {children : Forest} :
      isFragment (.element name attrs children) = false →
      claim? (.element name attrs children) = some .figure →
      figureFile? (prune children) = figureFile? children →
      figureCaption (prune children) = prune (figureCaption children) →
      (∀ n ∈ figureCaption children, Clear place n) →
      Clear place (.element name attrs children)
  /-- The caption is a fragment, but what it becomes is what the next caption becomes. -/
  | otherCaption {place : Place} {name : String} {attrs : Attributes} {children : Forest} :
      isFragment (.element name attrs children) = false →
      claim? (.element name attrs children) = some .figure →
      figureFile? (prune children) = figureFile? children →
      figureCaption (prune children) ≠ prune (figureCaption children) →
      staged true place (figureCaption children) =
        staged false place (figureCaption (prune children)) →
      Clear place (.element name attrs children)
  | table {place : Place} {name : String} {attrs : Attributes} {children : Forest} :
      isFragment (.element name attrs children) = false →
      claim? (.element name attrs children) = some .table →
      tableRows (prune children) = prune (tableRows children) →
      (∀ n ∈ tableRows children, Clear place n) →
      Clear place (.element name attrs children)
  /-- The first child is a fragment, but the rows become what the other rows become. -/
  | otherRows {place : Place} {name : String} {attrs : Attributes} {children : Forest} :
      isFragment (.element name attrs children) = false →
      claim? (.element name attrs children) = some .table →
      tableRows (prune children) ≠ prune (tableRows children) →
      staged true place (tableRows children) = staged false place (tableRows (prune children)) →
      Clear place (.element name attrs children)
  /-- Nothing is read from below an inline figure or a formula. -/
  | unread {place : Place} {name : String} {attrs : Attributes} {children : Forest} :
      isFragment (.element name attrs children) = false →
      claim? (.element name attrs children) = some .inlineFigure ∨
        claim? (.element name attrs children) = some .math →
      Clear place (.element name attrs children)
  | element {place : Place} {name : String} {attrs : Attributes} {children : Forest} :
      isFragment (.element name attrs children) = false →
      claim? (.element name attrs children) = none →
      (∀ n ∈ (inside place name children).2, Clear (inside place name children).1 n) →
      Clear place (.element name attrs children)
  | call {place : Place} {name : String} {params : List (String × Param)} :
      (∀ s ∈ contents name params, ∀ n ∈ s, Clear place n) →
      Clear place (.template name params)

/-! ## The sequences that are kept -/

/-- The sequence is lighter than the node, and made of what is live in it and of texts. -/
structure Part (s : Forest) (n : Node) : Prop where
  lighter : Node.weightAll s < n.weight
  live : ∀ m ∈ s, (∃ t ∈ n.sequences, Live m t) ∨ ∃ data, m = .text data

theorem Part.unconverted {s : Forest} {n : Node} (h : Part s n)
    (hn : Everywhere Unconverted [n]) : Everywhere Unconverted s :=
  everywhere_of_live h.live (fun data => by simp [Unconverted, Node.kind]) hn

section Parts

variable {name : String} {attrs : Attributes} {children : Forest}

theorem part_of_children {s : Forest} (hweight : Node.weightAll s ≤ Node.weightAll children)
    (hlive : ∀ m ∈ s, Live m children) : Part s (.element name attrs children) where
  lighter := by
    simp only [Node.weight]
    omega
  live m hm := .inl ⟨children, List.mem_singleton.2 rfl, hlive m hm⟩

theorem part_listItem {c : Node} (hc : c ∈ children) :
    Part (listItem c) (.element name attrs children) :=
  part_of_children (Nat.le_trans (weightAll_listItem c) (Node.weight_le_weightAll hc))
    fun _ => live_of_mem_listItem hc

theorem part_figureCaption : Part (figureCaption children) (.element name attrs children) :=
  part_of_children (weightAll_figureCaption children) fun _ => live_of_mem_figureCaption

theorem part_tableRows : Part (tableRows children) (.element name attrs children) :=
  part_of_children (weightAll_tableRows children) fun _ => live_of_mem_tableRows

theorem weightAll_le_of_sublist {xs ys : Forest} (h : xs.Sublist ys) :
    Node.weightAll xs ≤ Node.weightAll ys := by
  induction h with
  | slnil => exact Nat.le_refl _
  | cons n _ ih =>
      simp only [Node.weightAll]
      omega
  | cons_cons n _ ih =>
      simp only [Node.weightAll]
      omega

theorem inside_sublist (place : Place) (name : String) (children : Forest) :
    (inside place name children).2.Sublist children := by
  have hdropped : (lasting children).dropLast.Sublist children :=
    (List.dropLast_sublist _).trans List.filter_sublist
  unfold inside
  split
  · exact List.Sublist.refl _
  · split
    · exact List.Sublist.refl _
    · exact List.Sublist.refl _
    · split
      · split
        · exact hdropped
        · exact List.Sublist.refl _
      · exact List.nil_sublist _

theorem part_inside (place : Place) :
    Part (inside place name children).2 (.element name attrs children) :=
  have hsublist := inside_sublist place name children
  part_of_children (weightAll_le_of_sublist hsublist) fun _ hm => .among (hsublist.mem hm)

theorem part_contents {params : List (String × Param)} {s : Forest}
    (hs : s ∈ contents name params) : Part s (.template name params) := by
  have hmerged := innerWeight_merged_lt name params
  unfold contents at hs
  split at hs
  · cases hs
  · split at hs
    · have hitems := innerWeight_items_lt name (mergeFamilies (Markup.familiesOf name) params) false
      have hweight : Node.weightAll s ≤ _ := @Node.weightAll_le_innerWeight (.list false _) s hs
      obtain ⟨item, hitem, rfl⟩ := List.mem_map.1 hs
      refine ⟨?_, ?_⟩
      · simp only [Node.innerWeight] at hmerged hitems hweight
        omega
      · intro m hm
        rcases Param.mem_toForest hm with ⟨t, ht, hm⟩ | htext
        · have hmem := mem_sequences_of_itemParams hitem ht
          exact .inl ⟨t, mem_sequencesByKey_mergeFamilies hmem, .among hm⟩
        · exact .inr htext
    · split at hs
      · cases hs
      · have hweight := Node.weightAll_le_innerWeight hs
        refine ⟨Nat.lt_of_le_of_lt hweight hmerged, ?_⟩
        intro m hm
        exact .inl ⟨s, mem_sequencesByKey_mergeFamilies hs, .among hm⟩

end Parts

/-! ## The condition -/

section Condition

variable {place : Place} {name : String} {attrs : Attributes} {children : Forest}

/-- The condition is exact for the sequence. -/
def Exact (s : Forest) : Prop :=
  ∀ place, Alike place s ↔ ∀ n ∈ s, Clear place n

theorem exact_list (hfragment : isFragment (.element name attrs children) = false)
    (hclaim : claim? (.element name attrs children) = some .list)
    (ih : ∀ c ∈ children, Exact (listItem c)) :
    Alike place [.element name attrs children] ↔ Clear place (.element name attrs children) := by
  rw [alike_list hfragment hclaim]
  constructor
  · rintro ⟨hunmarked, hitems⟩
    exact .list hfragment hclaim hunmarked fun c hc => (ih c hc place).1 (hitems c hc)
  · intro h
    cases h with
    | list _ _ hunmarked hitems =>
        exact ⟨hunmarked, fun c hc => (ih c hc place).2 (hitems c hc)⟩
    | _ => simp_all

theorem exact_figure (hfragment : isFragment (.element name attrs children) = false)
    (hclaim : claim? (.element name attrs children) = some .figure)
    (ih : Exact (figureCaption children)) :
    Alike place [.element name attrs children] ↔ Clear place (.element name attrs children) := by
  rw [alike_figure hfragment hclaim]
  constructor
  · rintro ⟨hsame, hnone | hcaption⟩
    · exact .fileless hfragment hclaim hnone (hsame.trans hnone)
    · by_cases hpick : figureCaption (prune children) = prune (figureCaption children)
      · rw [hpick] at hcaption
        exact .figure hfragment hclaim hsame hpick ((ih place).1 hcaption)
      · exact .otherCaption hfragment hclaim hsame hpick hcaption
  · intro h
    cases h with
    | fileless _ _ hnone hnone' => exact ⟨hnone'.trans hnone.symm, .inl hnone⟩
    | figure _ _ hsame hpick hcaption =>
        rw [hpick]
        exact ⟨hsame, .inr ((ih place).2 hcaption)⟩
    | otherCaption _ _ hsame _ hcaption => exact ⟨hsame, .inr hcaption⟩
    | _ => simp_all

theorem exact_table (hfragment : isFragment (.element name attrs children) = false)
    (hclaim : claim? (.element name attrs children) = some .table)
    (ih : Exact (tableRows children)) :
    Alike place [.element name attrs children] ↔ Clear place (.element name attrs children) := by
  rw [alike_table hfragment hclaim]
  constructor
  · intro hrows
    by_cases hpick : tableRows (prune children) = prune (tableRows children)
    · rw [hpick] at hrows
      exact .table hfragment hclaim hpick ((ih place).1 hrows)
    · exact .otherRows hfragment hclaim hpick hrows
  · intro h
    cases h with
    | table _ _ hpick hrows =>
        rw [hpick]
        exact (ih place).2 hrows
    | otherRows _ _ _ hrows => exact hrows
    | _ => simp_all

theorem exact_inside (hchildren : ∀ n ∈ children, Unconverted n)
    (hfragment : isFragment (.element name attrs children) = false)
    (hclaim : claim? (.element name attrs children) = none)
    (ih : Exact (inside place name children).2) :
    Alike place [.element name attrs children] ↔ Clear place (.element name attrs children) := by
  rw [alike_inside hchildren hfragment hclaim]
  constructor
  · intro hinside
    exact .element hfragment hclaim ((ih _).1 hinside)
  · intro h
    cases h with
    | element _ _ hinside => exact (ih _).2 hinside
    | _ => simp_all

theorem exact_fragment (hunconverted : Unconverted (.element name attrs children))
    (hfragment : isFragment (.element name attrs children) = true) :
    Alike place [.element name attrs children] ↔ Clear place (.element name attrs children) := by
  cases hclaim : claim? (.element name attrs children) with
  | none =>
      obtain ⟨hstripped, hplain⟩ :=
        Vanishes.remains (.inr ⟨hfragment, hclaim⟩) hunconverted place
      exact iff_of_true (hstripped.trans hplain.symm) (.fragment hfragment hclaim)
  | some claim =>
      have hvanishes : ¬ Vanishes (.element name attrs children) := by
        simp [Vanishes, isInvocation, hclaim]
      have hnot : ¬ Alike place [.element name attrs children] :=
        not_alike_survivor (by simpa using hunconverted) (by simp) hfragment hvanishes
      apply iff_of_false hnot
      intro h
      cases h with
      | fragment _ hnone => simp [hclaim] at hnone
      | _ => simp_all

theorem exact_element (hunconverted : Everywhere Unconverted [.element name attrs children])
    (ih : ∀ s, Part s (.element name attrs children) → Exact s) :
    Alike place [.element name attrs children] ↔ Clear place (.element name attrs children) := by
  obtain ⟨hself, hbelow⟩ := everywhere_singleton.1 hunconverted
  have hchildren : ∀ n ∈ children, Unconverted n :=
    fun n hn => hbelow children (List.mem_singleton.2 rfl) n (.among hn)
  cases hfragment : isFragment (.element name attrs children) with
  | true => exact exact_fragment hself hfragment
  | false =>
      cases hclaim : claim? (.element name attrs children) with
      | none => exact exact_inside hchildren hfragment hclaim (ih _ (part_inside place))
      | some claim =>
          cases claim with
          | list => exact exact_list hfragment hclaim fun c hc => ih _ (part_listItem hc)
          | figure => exact exact_figure hfragment hclaim (ih _ part_figureCaption)
          | table => exact exact_table hfragment hclaim (ih _ part_tableRows)
          | inlineFigure =>
              exact iff_of_true (alike_unread hfragment (.inl hclaim))
                (.unread hfragment (.inl hclaim))
          | math =>
              exact iff_of_true (alike_unread hfragment (.inr hclaim))
                (.unread hfragment (.inr hclaim))

theorem exact_call {params : List (String × Param)}
    (ih : ∀ s, Part s (.template name params) → Exact s) :
    Alike place [.template name params] ↔ Clear place (.template name params) := by
  rw [alike_contents]
  constructor
  · intro h
    exact .call fun s hs => (ih s (part_contents hs) place).1 (h s hs)
  · intro h s hs
    cases h with
    | fragment hfragment =>
        rw [isFragment_of_kind (by simp [Node.kind])] at hfragment
        cases hfragment
    | call hcontents => exact (ih s (part_contents hs) place).2 (hcontents s hs)

end Condition

/-- Both orders agree on parsed markup exactly if all its nodes are clear. -/
theorem exact_of_unconverted {nodes : Forest} (h : Everywhere Unconverted nodes) :
    Exact nodes := by
  induction nodes using Node.weightAll_induction with
  | step nodes ih =>
  intro place
  rw [alike_iff_forall_mem fun n hn => h n (.among hn)]
  apply forall₂_congr
  intro n hn
  have hn' : Everywhere Unconverted [n] := everywhere_iff_forall_mem.1 h n hn
  have hparts (s : Forest) (hs : Part s n) : Exact s := by
    refine ih s ?_ (hs.unconverted hn')
    exact Nat.lt_of_lt_of_le hs.lighter (Node.weight_le_weightAll hn)
  cases n with
  | text data => exact iff_of_true (alike_text data) .text
  | element name attrs children => exact exact_element hn' hparts
  | template name params => exact exact_call hparts
  | _ => exact absurd (h _ (.among hn)) (by simp [Unconverted, Node.kind])

/-- Taking out fragments while an article is converted gives the same as taking them out of its
    parsed markup, exactly if all the nodes of the markup are clear. -/
theorem Article.convert_strip_eq_iff (ctx : Context) {nodes : Forest}
    (h : Everywhere Unconverted nodes) :
    Article.convert { stripFragments := true } ctx nodes =
        Article.convert { stripFragments := false } ctx (prune nodes) ↔
      ∀ n ∈ nodes, Clear .article n := by
  rw [convert_eq, convert_eq, conversion_eq_staged, conversion_eq_staged, Session.done.injEq]
  exact exact_of_unconverted h .article

/-- The attributes of an element of an expansion. -/
def marked : Attributes :=
  .ofList [("about", "#mwt1")]

/-- A heading that ends with an anchor and a fragment, before a list with a fragment in it. -/
def anchoredAndListed : Forest :=
  [.element "h2" ∅ [.text "T ", .template "Anker" [("1", .text "t")],
      .element "span" marked [.text "x"]],
    .element "ul" ∅ [.element "li" ∅ [.text "a", .element "p" marked [.text "b"]]]]

theorem inside_anchored : inside .article "h2" [.text "T ", .template "Anker" [("1", .text "t")],
    .element "span" marked [.text "x"]] = (.heading, [.text "T "]) := by
  rfl

theorem Article.convert_strip_anchoredAndListed :
    Everywhere Unconverted anchoredAndListed ∧ (∀ n ∈ anchoredAndListed, Clear .article n) ∧
      Article.convert { stripFragments := true } ⟨"Title", 0⟩ anchoredAndListed =
        Article.convert { stripFragments := false } ⟨"Title", 0⟩ (prune anchoredAndListed) := by
  have hunconverted : Everywhere Unconverted anchoredAndListed := by
    have several (n m : Node) (rest : Forest) : Everywhere Unconverted (n :: m :: rest) ↔
        Everywhere Unconverted [n] ∧ Everywhere Unconverted (m :: rest) := everywhere_cons
    simp [anchoredAndListed, several, everywhere_singleton, Unconverted, Node.kind, Node.sequences,
      Param.sequencesByKey, Param.sequences]
  have hclear : ∀ n ∈ anchoredAndListed, Clear .article n := by
    simp only [anchoredAndListed, List.forall_mem_cons, List.not_mem_nil, false_imp_iff,
      implies_true, and_true]
    refine ⟨.element (by decide) (by decide) ?_, .list (by decide) (by decide) ?_ ?_⟩
    · rw [inside_anchored]
      simp [Clear.text]
    · simp; decide
    · simp only [List.forall_mem_cons, List.not_mem_nil, false_imp_iff,
        implies_true, and_true, listItem]
      exact ⟨.text, .fragment (by decide) (by decide)⟩
  exact ⟨hunconverted, hclear, (Article.convert_strip_eq_iff _ hunconverted).2 hclear⟩

/-- A list that is a fragment is a list before fragments are looked for. -/
theorem Article.convert_strip_markedList :
    Everywhere Unconverted [.element "ul" marked [.element "li" ∅ [.text "x"]]] ∧
      Article.convert { stripFragments := true } ⟨"Title", 0⟩
          [.element "ul" marked [.element "li" ∅ [.text "x"]]] =
        .done [.list false [[.text "x"]]] ∧
      Article.convert { stripFragments := false } ⟨"Title", 0⟩
          (prune [.element "ul" marked [.element "li" ∅ [.text "x"]]]) = .done [] := by
  refine ⟨?_, ?_, ?_⟩
  · simp [everywhere_singleton, Unconverted, Node.kind, Node.sequences]
  · rw [convert_eq, conversion_eq_staged, staged_list (by decide)]
    simp [listItem, staged_text]
  · rw [convert_eq, conversion_eq_staged, prune_fragment (by decide), staged_nil]

end ArticleTree
