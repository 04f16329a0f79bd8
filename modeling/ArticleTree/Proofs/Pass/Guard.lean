import ArticleTree.Pass.Guard

/-! # What guards say

Each check as a condition on the node's kind, name and attributes.
-/

namespace ArticleTree

namespace Check

@[simp] theorem complainUnless_eq_none {condition : Bool} {message : String} :
    complainUnless condition message = none ↔ condition = true := by
  cases condition <;> simp [complainUnless]

@[simp] theorem kind_eq_none {k : Kind} {n : Node} :
    (Check.kind k).failure? n = none ↔ n.kind = k := by
  simp [failure?, kindFailure?]

@[simp] theorem element_eq_none {name : String} {n : Node} :
    (element name).failure? n = none ↔ n.kind = .element ∧ n.name? = some name := by
  simp [failure?, kindFailure?, nameFailure?]

@[simp] theorem elementOf_eq_none {names : List String} {n : Node} :
    (elementOf names).failure? n = none ↔
      n.kind = .element ∧ ∃ name ∈ names, n.name? = some name := by
  simp [failure?, kindFailure?, Option.any_eq_true, and_comm]

@[simp] theorem template_eq_none {name : String} {n : Node} :
    (template name).failure? n = none ↔ n.kind = .template ∧ n.name? = some name := by
  simp [failure?, kindFailure?, nameFailure?]

@[simp] theorem attr_eq_none {key value : String} {n : Node} :
    (attr key value).failure? n = none ↔ n.attr? key = some value := by
  simp [failure?]

@[simp] theorem attrOf_eq_none {key : String} {values : List String} {n : Node} :
    (attrOf key values).failure? n = none ↔ ∃ value ∈ values, n.attr? key = some value := by
  simp [failure?, Option.any_eq_true, and_comm]

@[simp] theorem hasAttr_eq_none {key : String} {n : Node} :
    (hasAttr key).failure? n = none ↔ (n.attr? key).isSome := by
  simp [failure?]

end Check

namespace Guard

/-- A guard is passed if every check is. -/
theorem passes_iff {guard : Guard} {n : Node} :
    guard.passes n = true ↔ ∀ check ∈ guard, check.failure? n = none := by
  rw [passes, Option.isNone_iff_eq_none, failure?, List.findSome?_eq_none_iff]

theorem exists_of_passes_element {picked : String} {checks : List Check} {n : Node}
    (h : passes (.element picked :: checks) n = true) :
    ∃ attrs children, n = .element picked attrs children := by
  rw [passes_iff, List.forall_mem_cons, Check.element_eq_none] at h
  obtain ⟨⟨hkind, hname⟩, _⟩ := h
  cases n with
  | element name attrs children =>
      cases hname
      exact ⟨attrs, children, rfl⟩
  | _ => cases hkind

theorem ensure_eq_ok {guard : Guard} {n : Node} :
    guard.ensure n = .ok () ↔ guard.passes n = true := by
  unfold ensure passes
  split <;> simp_all

end Guard

end ArticleTree
