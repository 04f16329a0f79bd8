import ArticleTree.Proofs.Stages.Picking

/-! # What becomes of a node before fragments are taken out

For each shape of node there is the one node that the first seven stages make of it, by what
they make of the sequences below.
-/

namespace ArticleTree.Stages

open Judgement

variable {name : String} {attrs : Attributes} {children : Forest}

/-! ## What nobody claims -/

theorem early_element (h : claim? (.element name attrs children) = none) :
    walkAll early [.element name attrs children] =
      [.element name attrs (walkAll early children)] :=
  early_of_inert h (by simp [Node.kind]) (by simp [Node.kind])

theorem early_template (name : String) (params : List (String × Param)) :
    walkAll early [.template name params] =
      [(merged name params).refill ((merged name params).sequences.map (walkAll early))] := by
  have hclaim : claim? (merged name params) = none := claim?_of_kind (by simp [merged, Node.kind])
  obtain ⟨hlist, hfigure, hinline, htable, hmath⟩ := claim?_eq_none.1 hclaim
  have hrest : ∀ v ∈ early.tail, v.Inert (merged name params) := by
    simp only [early, List.tail_cons, List.forall_mem_cons, List.not_mem_nil, false_imp_iff,
      implies_true, and_true]
    exact ⟨inert_judgeLists hlist, inert_judgeFigures hfigure, inert_judgeInlineFigures hinline,
      inert_judgeTables htable, inert_judgeInlineMath hmath,
      inert_judgeWrongInlineMath (by simp [merged, Node.kind])⟩
  have hsplit (nodes : Forest) :
      walkAll early nodes = walkAll early.tail (judgeNumbered.walk nodes) := rfl
  rw [hsplit, walk_judgeNumbered_template, walkAll_refill hrest (List.length_map _), List.map_map]
  rfl

/-! ## The stages before and after a claim -/

/-- How many stages come before the one that claims. -/
def Claim.stagesBefore : Claim → Nat
  | .list => 1
  | .figure => 2
  | .inlineFigure => 3
  | .table => 4
  | .math => 5

theorem early_take {claim : Claim} (h : claim? (.element name attrs children) = some claim) :
    walkAll (early.take claim.stagesBefore) [.element name attrs children] =
      [.element name attrs (walkAll (early.take claim.stagesBefore) children)] := by
  have hnumbered : judgeNumbered.Inert (.element name attrs children) :=
    inert_judgeNumbered (by simp [Node.kind])
  apply walkAll_inert
  have hclaim := claim?_eq_some h
  cases claim with
  | list => simpa [early, Claim.stagesBefore] using hnumbered
  | figure =>
      simpa [early, Claim.stagesBefore] using ⟨hnumbered, inert_judgeLists hclaim.1⟩
  | inlineFigure =>
      obtain ⟨hlist, hfigure, _⟩ := hclaim
      simpa [early, Claim.stagesBefore] using
        ⟨hnumbered, inert_judgeLists hlist, inert_judgeFigures hfigure⟩
  | table =>
      obtain ⟨hlist, hfigure, hinline, _⟩ := hclaim
      simpa [early, Claim.stagesBefore] using
        ⟨hnumbered, inert_judgeLists hlist, inert_judgeFigures hfigure,
          inert_judgeInlineFigures hinline⟩
  | math =>
      obtain ⟨hlist, hfigure, hinline, htable, _⟩ := hclaim
      simpa [early, Claim.stagesBefore] using
        ⟨hnumbered, inert_judgeLists hlist, inert_judgeFigures hfigure,
          inert_judgeInlineFigures hinline, inert_judgeTables htable⟩

/-- What a claim makes is left to itself, and the stages go on below it. -/
theorem early_drop {n : Node} (h : n.kind ∉ [.element, .template, .inlineMath]) (k : Nat) :
    walkAll (early.drop k) [n] = [n.refill (n.sequences.map (walkAll (early.drop k)))] := by
  simp only [List.mem_cons, List.not_mem_nil, or_false, not_or] at h
  obtain ⟨helement, htemplate, hmath⟩ := h
  exact walkAll_inert fun v hv =>
    inert_early (claim?_of_kind helement) htemplate hmath v (List.mem_of_mem_drop hv)

/-- The file that a figure embeds when it is its turn: lists in it are no elements then. -/
def figureFile? (children : Forest) : Option (String × String) :=
  embedded? (judgeLists.walk (judgeNumbered.walk children))

theorem early_list (h : claim? (.element name attrs children) = some .list) :
    walkAll early [.element name attrs children] =
      [.list (name == "ol") (children.map fun c => walkAll early (listItem c))] := by
  have hbefore : judgeNumbered.walk [.element name attrs children] =
      [.element name attrs (judgeNumbered.walk children)] := early_take h
  have hlist : isList (.element name attrs (judgeNumbered.walk children)) = true := by
    rw [claim?_element _ _ _ (judgeNumbered.walk children)] at h
    exact claim?_eq_some h
  have hafter (items : List Forest) : walkAll (early.drop 2) [.list (name == "ol") items] =
      [.list (name == "ol") (items.map (walkAll (early.drop 2)))] :=
    early_drop (by simp [Node.kind]) 2
  have hsplit (nodes : Forest) : walkAll early nodes =
      walkAll (early.drop 2) (judgeLists.walk (judgeNumbered.walk nodes)) := rfl
  rw [hsplit, hbefore, walk_judgeLists hlist, hafter, map_listItem_judgeNumbered]
  simp only [List.map_map]
  rfl

theorem early_figure (h : claim? (.element name attrs children) = some .figure) :
    walkAll early [.element name attrs children] =
      match figureFile? children with
      | some file => [imageOf attrs file (walkAll early (figureCaption children))]
      | none => [.error "Figure does not embed a file"] := by
  have hbefore : walkAll (early.take 2) [.element name attrs children] =
      [.element name attrs (walkAll (early.take 2) children)] := early_take h
  rw [claim?_element _ _ _ (walkAll (early.take 2) children)] at h
  obtain ⟨_, hfigure⟩ := claim?_eq_some h
  have hcaption : figureCaption (walkAll (early.take 2) children) =
      walkAll (early.take 2) (figureCaption children) := by
    have hlists : Steady judgeLists "figcaption" := steady_judgeLists (by decide)
    exact (figureCaption_walk hlists _).trans
      (congrArg judgeLists.walk (figureCaption_walk (steady_judgeNumbered _) children))
  have hsplit (nodes : Forest) : walkAll early nodes =
      walkAll (early.drop 3) (judgeFigures.walk (walkAll (early.take 2) nodes)) := rfl
  rw [hsplit, hbefore, walk_judgeFigures hfigure, hcaption]
  cases hfile : figureFile? children with
  | none =>
      have hembedded : embedded? (walkAll (early.take 2) children) = none := hfile
      rw [hembedded]
      exact early_drop (by simp [Node.kind]) 3
  | some file =>
      have hembedded : embedded? (walkAll (early.take 2) children) = some file := hfile
      rw [hembedded]
      exact early_drop (by simp [imageOf, Node.kind]) 3

theorem early_inlineFigure (h : claim? (.element name attrs children) = some .inlineFigure) :
    walkAll early [.element name attrs children] = [.error "Inline images are not allowed"] := by
  have hbefore : walkAll (early.take 3) [.element name attrs children] =
      [.element name attrs (walkAll (early.take 3) children)] := early_take h
  rw [claim?_element _ _ _ (walkAll (early.take 3) children)] at h
  obtain ⟨_, _, hinline⟩ := claim?_eq_some h
  have hsplit (nodes : Forest) : walkAll early nodes =
      walkAll (early.drop 4) (judgeInlineFigures.walk (walkAll (early.take 3) nodes)) := rfl
  rw [hsplit, hbefore]
  exact (congrArg _ (walk_judgeInlineFigures hinline)).trans (early_drop (by simp [Node.kind]) 4)

theorem early_table (h : claim? (.element name attrs children) = some .table) :
    walkAll early [.element name attrs children] =
      [.block .table (walkAll early (tableRows children))] := by
  have hbefore : walkAll (early.take 4) [.element name attrs children] =
      [.element name attrs (walkAll (early.take 4) children)] := early_take h
  rw [claim?_element _ _ _ (walkAll (early.take 4) children)] at h
  obtain ⟨_, _, _, htable⟩ := claim?_eq_some h
  have hrows : tableRows (walkAll (early.take 4) children) =
      walkAll (early.take 4) (tableRows children) := by
    simp only [early, List.take_succ_cons, List.take_zero, walkAll_first, walkAll_none]
    rw [tableRows_walk (steady_judgeInlineFigures (by decide)),
      tableRows_walk (steady_judgeFigures (by decide)),
      tableRows_walk (steady_judgeLists (by decide)), tableRows_walk (steady_judgeNumbered _)]
  have hsplit (nodes : Forest) : walkAll early nodes =
      walkAll (early.drop 5) (judgeTables.walk (walkAll (early.take 4) nodes)) := rfl
  rw [hsplit, hbefore, walk_judgeTables htable, hrows]
  exact early_drop (by simp [Node.kind]) 5

/-- A formula is made of attributes only. -/
theorem early_math (h : claim? (.element name attrs children) = some .math) :
    ∃ m : Node, (m.kind = .inlineMath ∨ m.kind = .error) ∧
      ∀ children', walkAll early [.element name attrs children'] = [m] := by
  have hmath (nodes : Forest) : judgeInlineMath.walk [.element name attrs nodes] =
      [formulaOfElement (.element name attrs [])] := by
    rw [claim?_element _ _ _ nodes] at h
    obtain ⟨_, _, _, _, hmath⟩ := claim?_eq_some h
    have hverdict : judgeInlineMath (.element name attrs nodes) =
        .done (formulaOfElement (.element name attrs nodes)) := only_of hmath
    rw [walk_singleton, node_done hverdict]
    rfl
  obtain ⟨m, hkind, hlast⟩ := walk_judgeWrongInlineMath_formula (.element name attrs [])
  refine ⟨m, hkind, ?_⟩
  intro children'
  have hbefore : walkAll (early.take 5) [.element name attrs children'] =
      [.element name attrs (walkAll (early.take 5) children')] := by
    rw [claim?_element _ _ _ children'] at h
    exact early_take h
  have hsplit (nodes : Forest) : walkAll early nodes =
      judgeWrongInlineMath.walk (judgeInlineMath.walk (walkAll (early.take 5) nodes)) := rfl
  rw [hsplit, hbefore, hmath, hlast]

end ArticleTree.Stages
