import ArticleTree.Proofs.Pass.Guard
import ArticleTree.Proofs.Pass.Judgement

/-! # Judgements in turn

Several judgements walk over a forest one after the other. A node that none of them has
anything to say to stays, and its sequences are walked by all of them.
-/

namespace ArticleTree

/-! ## Putting sequences back twice -/

namespace Param

mutual

/-- Of sequences put back twice the last stay, if there are enough of them. -/
theorem refill_refill (value : Param) (given given' : List Forest)
    (h : value.sequences.length ≤ given'.length) :
    (value.refill given).1.refill given' = value.refill given' := by
  cases value with
  | content nodes =>
      cases given' with
      | nil => simp [sequences] at h
      | cons first rest => cases given <;> rfl
  | list items =>
      simp only [refill, refillAll_refillAll items given given' h]
  | text data => rfl

theorem refillAll_refillAll (items : List Param) (given given' : List Forest)
    (h : (sequencesAll items).length ≤ given'.length) :
    refillAll (refillAll items given).1 given' = refillAll items given' := by
  cases items with
  | nil => rfl
  | cons item items =>
      simp only [sequencesAll, List.length_append] at h
      have hfirst := (sequences_refill_fst item given' (by omega)).2
      simp only [refillAll]
      rw [refill_refill item given given' (by omega), refillAll_refillAll items]
      rw [hfirst, List.length_drop]
      omega

end

theorem refillByKey_refillByKey (params : List (String × Param)) (given given' : List Forest)
    (h : (sequencesByKey params).length ≤ given'.length) :
    refillByKey (refillByKey params given) given' = refillByKey params given' := by
  induction params generalizing given given' with
  | nil => rfl
  | cons entry params ih =>
      obtain ⟨key, value⟩ := entry
      simp only [sequencesByKey, List.length_append] at h
      have hfirst := (sequences_refill_fst value given' (by omega)).2
      simp only [refillByKey]
      rw [refill_refill value given given' (by omega), ih]
      rw [hfirst, List.length_drop]
      omega

end Param

theorem Node.refill_refill (n : Node) (given : List Forest) {given' : List Forest}
    (h : given'.length = n.sequences.length) :
    (n.refill given).refill given' = n.refill given' := by
  cases n with
  | template name params =>
      exact congrArg (Node.template name)
        (Param.refillByKey_refillByKey params given given' (Nat.le_of_eq h.symm))
  | list ordered items => rfl
  | element | block | header | image | gallery | galleryItem =>
      obtain ⟨nodes, rfl⟩ := List.length_eq_one_iff.1 h
      cases given <;> rfl
  | _ => rfl

/-- Guards look at nothing below a node. -/
@[simp] theorem Guard.passes_refill (guard : Guard) (n : Node) (given : List Forest) :
    guard.passes (n.refill given) = guard.passes n := by
  have hfailure (check : Check) : check.failure? (n.refill given) = check.failure? n := by
    cases check <;> simp [Check.failure?, Check.kindFailure?, Check.nameFailure?]
  simp [passes, failure?, hfailure]

namespace Judgement

variable {v : Judgement} {vs ws : List Judgement} {n : Node} {nodes : Forest}

/-- Walk with one judgement after the other. -/
def walkAll (vs : List Judgement) (nodes : Forest) : Forest :=
  vs.foldl (fun nodes v => v.walk nodes) nodes

@[simp] theorem walkAll_none : walkAll [] nodes = nodes := rfl

@[simp] theorem walkAll_first : walkAll (v :: vs) nodes = walkAll vs (v.walk nodes) := rfl

@[simp] theorem walkAll_nil (vs : List Judgement) : walkAll vs [] = [] := by
  induction vs with
  | nil => rfl
  | cons v vs ih => rw [walkAll_first, walk_nil, ih]

theorem walkAll_append (vs : List Judgement) (xs ys : Forest) :
    walkAll vs (xs ++ ys) = walkAll vs xs ++ walkAll vs ys := by
  induction vs generalizing xs ys with
  | nil => rfl
  | cons v vs ih => rw [walkAll_first, walk_append, ih, ← walkAll_first, ← walkAll_first]

/-! ## Nodes that stay -/

/-- The judgement has nothing to say to the node, whatever is put below it. -/
def Inert (v : Judgement) (n : Node) : Prop :=
  ∀ given : List Forest, given.length = n.sequences.length → v (n.refill given) = .descend

theorem inert_only {condition : Node → Bool}
    (h : ∀ given, condition (n.refill given) = false) : (only condition v).Inert n :=
  fun given _ => only_of_not (h given)

theorem Inert.refill (h : v.Inert n) {given : List Forest}
    (hgiven : given.length = n.sequences.length) : v.Inert (n.refill given) := by
  intro given' hgiven'
  rw [Node.sequences_refill hgiven] at hgiven'
  rw [Node.refill_refill _ _ (hgiven'.trans hgiven)]
  exact h given' (hgiven'.trans hgiven)

theorem walk_inert (h : v.Inert n) : v.walk [n] = [n.refill (n.sequences.map v.walk)] := by
  have hverdict : v n = .descend := by
    have := h n.sequences rfl
    rwa [n.refill_sequences] at this
  rw [walk_singleton, node_descend hverdict]
  rfl

theorem walkAll_inert (h : ∀ v ∈ vs, v.Inert n) :
    walkAll vs [n] = [n.refill (n.sequences.map (walkAll vs))] := by
  induction vs generalizing n with
  | nil =>
      have hsame : n.sequences.map (walkAll []) = n.sequences := List.map_id _
      rw [hsame, n.refill_sequences]
      rfl
  | cons v vs ih =>
      have hv : v.Inert n := h v List.mem_cons_self
      have hlength : (n.sequences.map v.walk).length = n.sequences.length := List.length_map _
      have hrest : ∀ w ∈ vs, w.Inert (n.refill (n.sequences.map v.walk)) :=
        fun w hw => (h w (List.mem_cons_of_mem _ hw)).refill hlength
      rw [walkAll_first, walk_inert hv, ih hrest, Node.sequences_refill hlength, List.map_map,
        Node.refill_refill _ _ (by simp)]
      rfl

theorem walkAll_refill (h : ∀ v ∈ vs, v.Inert n) {given : List Forest}
    (hgiven : given.length = n.sequences.length) :
    walkAll vs [n.refill given] = [n.refill (given.map (walkAll vs))] := by
  rw [walkAll_inert fun v hv => (h v hv).refill hgiven, Node.sequences_refill hgiven,
    Node.refill_refill _ _ (by rw [List.length_map, hgiven])]

end Judgement

end ArticleTree
