import ArticleTree.Proofs.Pass.InTurn
import ArticleTree.Proofs.Stages.Judgements

/-! # What the stages before the removal of fragments claim

Seven stages run before fragments are taken out. Five of them claim elements: what they make
has no attributes, so nothing shows any more that the element was marked.
-/

namespace ArticleTree.Stages

open Judgement

/-- What an element is claimed as. -/
inductive Claim where
  | list
  | figure
  | inlineFigure
  | table
  | math
  deriving DecidableEq

/-- The first stage that claims the node. -/
def claim? (n : Node) : Option Claim :=
  if isList n then some .list
  else if isFigure n then some .figure
  else if isInlineFigure n then some .inlineFigure
  else if isTable n then some .table
  else if isMath n then some .math
  else none

@[simp] theorem claim?_refill (n : Node) (given : List Forest) :
    claim? (n.refill given) = claim? n := by
  have hlist : isList (n.refill given) = isList n := Guard.passes_refill _ n given
  have hfigure : isFigure (n.refill given) = isFigure n := Guard.passes_refill _ n given
  have hinline : isInlineFigure (n.refill given) = isInlineFigure n := Guard.passes_refill _ n given
  have htable : isTable (n.refill given) = isTable n := Guard.passes_refill _ n given
  have hmath : isMath (n.refill given) = isMath n := Guard.passes_refill _ n given
  simp only [claim?, hlist, hfigure, hinline, htable, hmath]

/-- Names and attributes decide, children do not. -/
theorem claim?_element (name : String) (attrs : Attributes) (children children' : Forest) :
    claim? (.element name attrs children) = claim? (.element name attrs children') :=
  (claim?_refill (.element name attrs children) [children']).symm

theorem claim?_eq_none {n : Node} :
    claim? n = none ↔ isList n = false ∧ isFigure n = false ∧ isInlineFigure n = false ∧
      isTable n = false ∧ isMath n = false := by
  unfold claim?
  split
  · simp_all
  · split
    · simp_all
    · split
      · simp_all
      · split
        · simp_all
        · split <;> simp_all

/-- What a claim says of the node: the stages before did not look for it. -/
theorem claim?_eq_some {n : Node} {claim : Claim} (h : claim? n = some claim) :
    match claim with
    | .list => isList n = true
    | .figure => isList n = false ∧ isFigure n = true
    | .inlineFigure => isList n = false ∧ isFigure n = false ∧ isInlineFigure n = true
    | .table =>
        isList n = false ∧ isFigure n = false ∧ isInlineFigure n = false ∧ isTable n = true
    | .math => isList n = false ∧ isFigure n = false ∧ isInlineFigure n = false ∧
        isTable n = false ∧ isMath n = true := by
  unfold claim? at h
  split_ifs at h <;> cases h <;> simp_all

theorem claim?_of_kind {n : Node} (h : n.kind ≠ .element) : claim? n = none := by
  have hattr (key : String) : n.attr? key = none := by
    cases n with
    | element => exact absurd rfl h
    | _ => rfl
  rw [claim?_eq_none]
  simp [isList, isFigure, isInlineFigure, isTable, isMath, Bool.eq_false_iff, Guard.passes_iff, h,
    hattr]

/-! ## Stages with nothing to say -/

/-- The stages before the removal of fragments. -/
def early : List Judgement :=
  [judgeNumbered, judgeLists, judgeFigures, judgeInlineFigures, judgeTables, judgeInlineMath,
    judgeWrongInlineMath]

section Inert

variable {n : Node}

theorem inert_judgeNumbered (h : n.kind ≠ .template) : judgeNumbered.Inert n :=
  inert_only fun given => by simpa using h

theorem inert_judgeLists (h : isList n = false) : judgeLists.Inert n :=
  inert_only fun given => by simpa [isList] using h

theorem inert_judgeFigures (h : isFigure n = false) : judgeFigures.Inert n :=
  inert_only fun given => by simpa [isFigure] using h

theorem inert_judgeInlineFigures (h : isInlineFigure n = false) : judgeInlineFigures.Inert n :=
  inert_only fun given => by simpa [isInlineFigure] using h

theorem inert_judgeTables (h : isTable n = false) : judgeTables.Inert n :=
  inert_only fun given => by simpa [isTable] using h

theorem inert_judgeInlineMath (h : isMath n = false) : judgeInlineMath.Inert n :=
  inert_only fun given => by simpa [isMath] using h

theorem inert_judgeWrongInlineMath (h : n.kind ≠ .inlineMath) : judgeWrongInlineMath.Inert n :=
  inert_only fun given => by simpa using h

/-- Only the first and the last of the stages say anything to what nobody claims. -/
theorem inert_early (hclaim : claim? n = none) (htemplate : n.kind ≠ .template)
    (hmath : n.kind ≠ .inlineMath) : ∀ v ∈ early, v.Inert n := by
  obtain ⟨hlist, hfigure, hinline, htable, hmath'⟩ := claim?_eq_none.1 hclaim
  simp only [early, List.forall_mem_cons, List.not_mem_nil, false_imp_iff, implies_true, and_true]
  exact ⟨inert_judgeNumbered htemplate, inert_judgeLists hlist, inert_judgeFigures hfigure,
    inert_judgeInlineFigures hinline, inert_judgeTables htable, inert_judgeInlineMath hmath',
    inert_judgeWrongInlineMath hmath⟩

/-- What nobody claims stays as it is, and the stages go on below it. -/
theorem early_of_inert (hclaim : claim? n = none) (htemplate : n.kind ≠ .template)
    (hmath : n.kind ≠ .inlineMath) :
    walkAll early [n] = [n.refill (n.sequences.map (walkAll early))] :=
  walkAll_inert (inert_early hclaim htemplate hmath)

end Inert

end ArticleTree.Stages
