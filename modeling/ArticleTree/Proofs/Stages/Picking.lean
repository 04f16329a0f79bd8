import ArticleTree.Proofs.Stages.Claim
import ArticleTree.Proofs.Stages.Merging

/-! # What a claiming stage makes, and from which parts

A list takes its items from its children, a figure its caption and a table its rows. The
stages that come before may rewrite these parts, but they leave them where they are found.
-/

namespace ArticleTree.Stages

open Judgement

variable {name : String} {attrs : Attributes} {children : Forest}

/-! ## What one stage makes -/

theorem walk_judgeNumbered_template (name : String) (params : List (String × Param)) :
    judgeNumbered.walk [.template name params] =
      [(merged name params).refill ((merged name params).sequences.map judgeNumbered.walk)] := by
  cases hfamilies : (Markup.familiesOf name).isEmpty with
  | true =>
      have hverdict : judgeNumbered (.template name params) = .descend := by
        simp [judgeNumbered, only, Node.kind, mergeNumbered, hfamilies]
      rw [merged, List.isEmpty_iff.1 hfamilies, walk_singleton, node_descend hverdict]
      rfl
  | false =>
      have hverdict : judgeNumbered (.template name params) =
          .into (merged name params) (innerWeight_merged_lt name params) := by
        simp [judgeNumbered, only, Node.kind, mergeNumbered, hfamilies, merged]
      rw [walk_singleton, node_into hverdict]
      rfl

theorem exists_of_isList {n : Node} (h : isList n = true) :
    ∃ name attrs children, n = .element name attrs children ∧ (name = "ul" ∨ name = "ol") := by
  cases n with
  | element name attrs children =>
      refine ⟨name, attrs, children, rfl, ?_⟩
      simpa [isList, Guard.passes_iff, Node.kind, Node.name?] using h
  | _ => simp [isList, Guard.passes_iff, Node.kind] at h

theorem walk_judgeLists (h : isList (.element name attrs children) = true) :
    judgeLists.walk [.element name attrs children] =
      [.list (name == "ol") ((children.map listItem).map judgeLists.walk)] := by
  have hverdict : judgeLists (.element name attrs children) =
      listOfElement (.element name attrs children) := only_of h
  rw [walk_singleton, node_into hverdict]
  rfl

/-- The file that a figure with these children embeds: its name and its address. -/
def embedded? (children : Forest) : Option (String × String) :=
  match (figureImage? children).bind (Node.attr? "resource"),
    (figureImage? children).bind (Node.attr? "src") with
  | some resource, some src => some (Text.withoutStart fileNamespace resource, src)
  | _, _ => none

/-- The image of a figure. -/
def imageOf (attrs : Attributes) (file : String × String) (caption : Forest) : Node :=
  .image file.1 file.2 (attrs.get? "typeof" == some "mw:Image/Thumb") caption

theorem walk_judgeFigures (h : isFigure (.element name attrs children) = true) :
    judgeFigures.walk [.element name attrs children] =
      match embedded? children with
      | some file => [imageOf attrs file (judgeFigures.walk (figureCaption children))]
      | none => [.error "Figure does not embed a file"] := by
  have hverdict : judgeFigures (.element name attrs children) =
      imageOfFigure (.element name attrs children) := only_of h
  rw [walk_singleton, embedded?]
  simp only [imageOfFigure] at hverdict
  cases hresource : (figureImage? children).bind (Node.attr? "resource") with
  | none =>
      simp only [hresource] at hverdict
      rw [node_done hverdict]
      rfl
  | some resource =>
      cases hsrc : (figureImage? children).bind (Node.attr? "src") with
      | none =>
          simp only [hresource, hsrc] at hverdict
          rw [node_done hverdict]
          rfl
      | some src =>
          simp only [hresource, hsrc] at hverdict
          rw [node_into hverdict]
          rfl

theorem walk_judgeInlineFigures {n : Node} (h : isInlineFigure n = true) :
    judgeInlineFigures.walk [n] = [.error "Inline images are not allowed"] := by
  rw [walk_singleton, node_done (only_of h)]
  rfl

theorem walk_judgeTables (h : isTable (.element name attrs children) = true) :
    judgeTables.walk [.element name attrs children] =
      [.block .table (judgeTables.walk (tableRows children))] := by
  have hverdict : judgeTables (.element name attrs children) =
      tableOfElement (.element name attrs children) := only_of h
  rw [walk_singleton, node_into hverdict]
  rfl

theorem walk_judgeWrongInlineMath_formula (n : Node) :
    ∃ m : Node, (m.kind = .inlineMath ∨ m.kind = .error) ∧
      judgeWrongInlineMath.walk [formulaOfElement n] = [m] := by
  unfold formulaOfElement
  split
  · rename_i formula _
    have hverdict : judgeWrongInlineMath (.inlineMath formula) =
        singleExpression (.inlineMath formula) := only_of rfl
    rw [walk_singleton]
    simp only [singleExpression] at hverdict
    split at hverdict
    · exact ⟨_, .inr rfl, by rw [node_done hverdict]; rfl⟩
    · exact ⟨_, .inl rfl, by rw [node_descend hverdict]; rfl⟩
  · exact ⟨_, .inr rfl, walk_inert (inert_judgeWrongInlineMath (by simp [Node.kind]))⟩

/-! ## Items of a list -/

theorem listItem_of_kind {n : Node} (h : n.kind ≠ .element) : listItem n = [n] := by
  cases n with
  | element => exact absurd rfl h
  | _ => rfl

/-- Merging parameters leaves a node in its place, and the item that it makes. -/
theorem listItem_judgeNumbered (c : Node) :
    ∃ c', judgeNumbered.walk [c] = [c'] ∧ listItem c' = judgeNumbered.walk (listItem c) := by
  by_cases helement : c.kind = .element
  · cases c with
    | element name attrs children =>
        exact ⟨_, walk_inert (inert_judgeNumbered (by simp [Node.kind])), rfl⟩
    | _ => cases helement
  · obtain ⟨c', hwalk, hkind⟩ : ∃ c', judgeNumbered.walk [c] = [c'] ∧ c'.kind = c.kind := by
      by_cases htemplate : c.kind = .template
      · cases c with
        | template name params =>
            exact ⟨_, walk_judgeNumbered_template name params, Node.kind_refill _ _⟩
        | _ => cases htemplate
      · exact ⟨_, walk_inert (inert_judgeNumbered htemplate), Node.kind_refill _ _⟩
    refine ⟨c', hwalk, ?_⟩
    rw [listItem_of_kind helement, listItem_of_kind (hkind ▸ helement), hwalk]

theorem map_listItem_judgeNumbered (children : Forest) :
    (judgeNumbered.walk children).map listItem =
      children.map fun c => judgeNumbered.walk (listItem c) := by
  induction children with
  | nil => simp
  | cons c rest ih =>
      obtain ⟨c', hwalk, hitem⟩ := listItem_judgeNumbered c
      rw [← List.singleton_append, walk_append, hwalk, List.map_append, ih]
      simp [hitem]

/-! ## Parts that a stage picks out -/

theorem figureCaption_of_name {n : Node} {rest : Forest} (h : n.name? ≠ some "figcaption") :
    figureCaption (n :: rest) = figureCaption rest := by
  cases n with
  | element name attrs children =>
      have hname : name ≠ "figcaption" := by simpa [Node.name?] using h
      simp [figureCaption, hname]
  | _ => rfl

theorem tableRows_of_name {n : Node} {rest : Forest} (h : n.name? ≠ some "tbody") :
    tableRows (n :: rest) = n :: rest := by
  unfold tableRows
  split
  · rename_i heq
    cases heq
    exact absurd rfl h
  · rename_i heq
    cases heq
    exact absurd rfl h
  · rfl

/-- What a walk puts in the place of a node. If the node bears the name, it stays what it
    is. -/
inductive Follows (v : Judgement) (picked : String) : Node → Node → Prop where
  | element (attrs : Attributes) (children : Forest) :
      Follows v picked (.element picked attrs children) (.element picked attrs (v.walk children))
  | template (params params' : List (String × Param)) :
      Follows v picked (.template picked params) (.template picked params')
  | other {c c' : Node} :
      c.name? ≠ some picked → c'.name? ≠ some picked → Follows v picked c c'

def Steady (v : Judgement) (picked : String) : Prop :=
  ∀ c : Node, ∃ c', v.walk [c] = [c'] ∧ Follows v picked c c'

variable {v : Judgement} {picked : String}

theorem follows_of_inert {c : Node} (h : v.Inert c) :
    ∃ c', v.walk [c] = [c'] ∧ Follows v picked c c' := by
  refine ⟨_, walk_inert h, ?_⟩
  by_cases hname : c.name? = some picked
  · cases c with
    | element name attrs children =>
        cases hname
        exact .element attrs children
    | template name params =>
        cases hname
        exact .template params _
    | _ => cases hname
  · exact .other hname (by rwa [Node.name?_refill])

theorem steady_judgeNumbered (picked : String) : Steady judgeNumbered picked := by
  intro c
  by_cases htemplate : c.kind = .template
  · cases c with
    | template name params =>
        refine ⟨_, walk_judgeNumbered_template name params, ?_⟩
        by_cases hname : name = picked
        · subst hname
          exact .template params _
        · refine .other ?_ ?_
          · simpa [Node.name?] using hname
          · rw [Node.name?_refill]
            simpa [merged, Node.name?] using hname
    | _ => cases htemplate
  · exact follows_of_inert (inert_judgeNumbered htemplate)

theorem steady_judgeLists (h : picked ≠ "ul" ∧ picked ≠ "ol") : Steady judgeLists picked := by
  intro c
  cases hc : isList c with
  | false => exact follows_of_inert (inert_judgeLists hc)
  | true =>
      obtain ⟨name, attrs, children, rfl, hname⟩ := exists_of_isList hc
      refine ⟨_, walk_judgeLists hc, .other ?_ (by simp [Node.name?])⟩
      simp only [Node.name?, ne_eq, Option.some.injEq]
      rintro rfl
      exact hname.elim h.1 h.2

theorem steady_judgeFigures (h : picked ≠ "figure") : Steady judgeFigures picked := by
  intro c
  cases hc : isFigure c with
  | false => exact follows_of_inert (inert_judgeFigures hc)
  | true =>
      obtain ⟨attrs, children, rfl⟩ := Guard.exists_of_passes_element hc
      rw [walk_judgeFigures hc]
      have hname : (Node.element "figure" attrs children).name? ≠ some picked := by
        simpa [Node.name?] using Ne.symm h
      split
      · exact ⟨_, rfl, .other hname (by simp [imageOf, Node.name?])⟩
      · exact ⟨_, rfl, .other hname (by simp [Node.name?])⟩

theorem steady_judgeInlineFigures (h : picked ≠ "span") : Steady judgeInlineFigures picked := by
  intro c
  cases hc : isInlineFigure c with
  | false => exact follows_of_inert (inert_judgeInlineFigures hc)
  | true =>
      obtain ⟨attrs, children, rfl⟩ := Guard.exists_of_passes_element hc
      refine ⟨_, walk_judgeInlineFigures hc, .other ?_ (by simp [Node.name?])⟩
      simpa [Node.name?] using Ne.symm h

theorem figureCaption_walk (hv : Steady v "figcaption") (children : Forest) :
    figureCaption (v.walk children) = v.walk (figureCaption children) := by
  induction children with
  | nil => simp [figureCaption]
  | cons c rest ih =>
      obtain ⟨c', hwalk, hfollows⟩ := hv c
      rw [← List.singleton_append, walk_append, hwalk]
      cases hfollows with
      | element attrs children => simp [figureCaption]
      | template params params' => simpa [figureCaption] using ih
      | other hname hname' =>
          rw [List.singleton_append, List.singleton_append, figureCaption_of_name hname,
            figureCaption_of_name hname', ih]

theorem tableRows_walk (hv : Steady v "tbody") (children : Forest) :
    tableRows (v.walk children) = v.walk (tableRows children) := by
  cases children with
  | nil => simp [tableRows]
  | cons c rest =>
      obtain ⟨c', hwalk, hfollows⟩ := hv c
      rw [← List.singleton_append, walk_append, hwalk]
      cases hfollows with
      | element attrs children => simp [tableRows]
      | template params params' => simp [tableRows]
      | other hname hname' =>
          rw [List.singleton_append, List.singleton_append, tableRows_of_name hname,
            tableRows_of_name hname', walk_cons, ← walk_singleton, hwalk, List.singleton_append]

end ArticleTree.Stages
