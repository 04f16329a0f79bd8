import ArticleTree.Proofs.Node.Live

/-! # Outermost nodes

The live nodes with a property that have no node with it above them. What can be told node by
node, and below a node without the property by the sequences that it owns, is told by these.
-/

namespace ArticleTree

/-- The node is live in the forest and has the property, and no node above it has it. -/
inductive Outermost (p : Node → Prop) (n : Node) : Forest → Prop where
  | among {nodes : Forest} : n ∈ nodes → p n → Outermost p n nodes
  | inside {nodes : Forest} {m : Node} {s : Forest} :
      m ∈ nodes → ¬ p m → s ∈ m.sequences → Outermost p n s → Outermost p n nodes

variable {p q : Node → Prop} {n m : Node} {rest : Forest}

theorem not_outermost_nil : ¬ Outermost p n [] := by
  intro h
  cases h with
  | among hn => cases hn
  | inside hm => cases hm

theorem outermost_cons :
    Outermost p n (m :: rest) ↔ Outermost p n [m] ∨ Outermost p n rest := by
  constructor
  · intro h
    cases h with
    | among hn hp =>
        rcases List.mem_cons.1 hn with rfl | hn
        · exact .inl (.among List.mem_cons_self hp)
        · exact .inr (.among hn hp)
    | inside hm hnot hs h =>
        rcases List.mem_cons.1 hm with rfl | hm
        · exact .inl (.inside List.mem_cons_self hnot hs h)
        · exact .inr (.inside hm hnot hs h)
  · rintro (h | h)
    · cases h with
      | among hn hp => exact .among (List.mem_cons.2 (.inl (List.mem_singleton.1 hn))) hp
      | inside hm hnot hs h =>
          exact .inside (List.mem_cons.2 (.inl (List.mem_singleton.1 hm))) hnot hs h
    · cases h with
      | among hn hp => exact .among (List.mem_cons_of_mem _ hn) hp
      | inside hm hnot hs h => exact .inside (List.mem_cons_of_mem _ hm) hnot hs h

theorem outermost_singleton_of (hm : p m) : Outermost p n [m] ↔ n = m := by
  constructor
  · intro h
    cases h with
    | among hn => exact List.mem_singleton.1 hn
    | inside hm' hnot =>
        obtain rfl := List.mem_singleton.1 hm'
        exact absurd hm hnot
  · rintro rfl
    exact .among List.mem_cons_self hm

theorem outermost_singleton_of_not (hm : ¬ p m) :
    Outermost p n [m] ↔ ∃ s ∈ m.sequences, Outermost p n s := by
  constructor
  · intro h
    cases h with
    | among hn hp =>
        obtain rfl := List.mem_singleton.1 hn
        exact absurd hp hm
    | inside hm' _ hs h =>
        obtain rfl := List.mem_singleton.1 hm'
        exact ⟨_, hs, h⟩
  · rintro ⟨s, hs, h⟩
    exact .inside List.mem_cons_self hm hs h

/-- A property of forests that is told node by node, that is told by the node itself where it is
    one of those looked for, and by its sequences where it is not. -/
theorem forall_outermost_iff {P : Forest → Prop} (nil : P [])
    (cons : ∀ n rest, P (n :: rest) ↔ P [n] ∧ P rest) (own : ∀ n, p n → (P [n] ↔ q n))
    (below : ∀ n, ¬ p n → (P [n] ↔ ∀ s ∈ n.sequences, P s)) (nodes : Forest) :
    P nodes ↔ ∀ n, Outermost p n nodes → q n := by
  induction nodes using Node.weightAll_induction with
  | step nodes ih =>
  cases nodes with
  | nil => exact iff_of_true nil fun n h => absurd h not_outermost_nil
  | cons m rest =>
      have hfirst : P [m] ↔ ∀ n, Outermost p n [m] → q n := by
        by_cases hm : p m
        · simp only [own m hm, outermost_singleton_of hm, forall_eq]
        · have hlighter (s : Forest) (hs : s ∈ m.sequences) :=
            ih s (Node.weightAll_lt_of_mem_sequences List.mem_cons_self hs)
          rw [below m hm, forall₂_congr hlighter]
          simp only [outermost_singleton_of_not hm, forall_exists_index, and_imp]
          exact ⟨fun h n s hs => h s hs n, fun h s hs n => h n s hs⟩
      rw [cons, hfirst, ih rest (Node.weightAll_lt_cons m rest), ← forall_and]
      refine forall_congr' fun n => ?_
      rw [@outermost_cons _ _ _ rest, or_imp]

end ArticleTree
