import ArticleTree.Proofs.Node.Count
import ArticleTree.Proofs.Pass.Judgement

/-! # What forests are rewritten to

Two rules say what may stand for a node: one before all that is below is rewritten in turn, and
one for good. A walk keeps to the rules that its verdicts keep to, wherever it comes; that it
also ends is not a matter of the rules.
-/

namespace ArticleTree

/-- The second forest is the first one rewritten by the rules. Where `into` holds, what stands
    for the node has been rewritten below; where `done` holds, it is left as it is. -/
inductive Rewritten (into done : Node → Node → Prop) : Forest → Forest → Prop where
  | nil : Rewritten into done [] []
  | into {n other : Node} {given : List Forest} {rest made : Forest} :
      into n other → List.Forall₂ (Rewritten into done) other.sequences given →
        Rewritten into done rest made → Rewritten into done (n :: rest) (other.refill given :: made)
  | done {n other : Node} {rest made : Forest} :
      done n other → Rewritten into done rest made →
        Rewritten into done (n :: rest) (other :: made)

/-- No node is left for good. -/
abbrev Throughout (rule : Node → Node → Prop) : Forest → Forest → Prop :=
  Rewritten rule fun _ _ => False

variable {into done : Node → Node → Prop} {n : Node} {nodes rest made : Forest}

theorem rewritten_singleton : Rewritten into done [n] made ↔
    (∃ other given, into n other ∧ List.Forall₂ (Rewritten into done) other.sequences given ∧
      made = [other.refill given]) ∨ ∃ other, done n other ∧ made = [other] := by
  constructor
  · intro h
    cases h with
    | into hinto hbelow hrest =>
        cases hrest
        exact .inl ⟨_, _, hinto, hbelow, rfl⟩
    | done hdone hrest =>
        cases hrest
        exact .inr ⟨_, hdone, rfl⟩
  · rintro (⟨other, given, hinto, hbelow, rfl⟩ | ⟨other, hdone, rfl⟩)
    · exact .into hinto hbelow .nil
    · exact .done hdone .nil

/-- Nodes are rewritten one by one. -/
theorem rewritten_cons_cons {m : Node} : Rewritten into done (n :: rest) (m :: made) ↔
    Rewritten into done [n] [m] ∧ Rewritten into done rest made := by
  constructor
  · intro h
    cases h with
    | into hinto hbelow hrest => exact ⟨.into hinto hbelow .nil, hrest⟩
    | done hdone hrest => exact ⟨.done hdone .nil, hrest⟩
  · rintro ⟨hfirst, hrest⟩
    cases hfirst with
    | into hinto hbelow => exact .into hinto hbelow hrest
    | done hdone => exact .done hdone hrest

/-- Where the rule leaves no choice, what is below the node that it gives tells. -/
theorem throughout_singleton {rule : Node → Node → Prop} {other : Node} {given : List Forest}
    (hrule : ∀ m, rule n m ↔ m = other) (hlength : given.length = other.sequences.length) :
    Throughout rule [n] [other.refill given] ↔
      List.Forall₂ (Throughout rule) other.sequences given := by
  rw [Throughout, rewritten_singleton]
  constructor
  · rintro (⟨m, given', hm, hbelow, heq⟩ | ⟨_, hdone, _⟩)
    · obtain rfl := (hrule m).1 hm
      have hgiven := congrArg Node.sequences (List.singleton_inj.1 heq)
      rw [Node.sequences_refill hlength, Node.sequences_refill hbelow.length_eq.symm] at hgiven
      rwa [hgiven]
    · exact hdone.elim
  · intro hbelow
    exact .inl ⟨other, given, (hrule other).2 rfl, hbelow, rfl⟩

theorem Rewritten.length_eq (h : Rewritten into done nodes made) :
    made.length = nodes.length := by
  induction nodes generalizing made with
  | nil =>
      cases h
      rfl
  | cons n rest ih =>
      cases h with
      | into _ _ hrest => exact congrArg (· + 1) (ih hrest)
      | done _ hrest => exact congrArg (· + 1) (ih hrest)

/-- The rule of induction: below a node that is rewritten further, the property holds of each
    sequence and what it becomes. -/
theorem Rewritten.induct {P : Forest → Forest → Prop} (nil : P [] [])
    (into' : ∀ {n other given rest made}, into n other → List.Forall₂ P other.sequences given →
      P rest made → P (n :: rest) (other.refill given :: made))
    (done' : ∀ {n other rest made}, done n other → P rest made → P (n :: rest) (other :: made))
    (h : Rewritten into done nodes made) : P nodes made :=
  @Rewritten.rec into done (fun nodes made _ => P nodes made)
    (fun ss ts _ => List.Forall₂ P ss ts) nil
    (fun hinto _ _ hbelow hrest => into' hinto hbelow hrest)
    (fun hdone _ hrest => done' hdone hrest) .nil (fun _ _ hfirst hothers => .cons hfirst hothers)
    nodes made h

/-! ## Counting -/

/-- A comparison of counts that can be made part by part. -/
structure AddsUp (R : Nat → Nat → Prop) : Prop where
  refl : ∀ k, R k k
  trans : ∀ {a b c}, R a b → R b c → R a c
  add : ∀ {a b c d}, R a b → R c d → R (a + c) (b + d)

theorem addsUp_eq : AddsUp (· = ·) where
  refl _ := rfl
  trans := Eq.trans
  add := by
    rintro a b c d rfl rfl
    rfl

theorem addsUp_ge : AddsUp (· ≥ ·) where
  refl := Nat.le_refl
  trans hab hbc := Nat.le_trans hbc hab
  add := Nat.add_le_add

section Counting

variable {condition : Node → Bool} {R : Nat → Nat → Prop}

theorem AddsUp.sum (hR : AddsUp R) {xs ys : List Nat} (h : List.Forall₂ R xs ys) :
    R xs.sum ys.sum := by
  induction h with
  | nil => exact hR.refl 0
  | cons hfirst _ ih =>
      rw [List.sum_cons, List.sum_cons]
      exact hR.add hfirst ih

/-- If rules never add to a count, or always keep it, rewriting does so too. The condition must
    not look below the nodes, since that is rewritten in turn. -/
theorem Rewritten.countLive_rel (hR : AddsUp R)
    (refill : ∀ n given, condition (n.refill given) = condition n)
    (hinto : ∀ n other, into n other → R (countLive condition [n]) (countLive condition [other]))
    (hdone : ∀ n other, done n other → R (countLive condition [n]) (countLive condition [other]))
    (h : Rewritten into done nodes made) :
    R (countLive condition nodes) (countLive condition made) := by
  have split (n : Node) (rest : Forest) : countLive condition (n :: rest) =
      countLive condition [n] + countLive condition rest := countLive_append [n] rest
  refine Rewritten.induct (P := fun nodes made => R (countLive condition nodes)
    (countLive condition made)) (hR.refl _) ?_ ?_ h
  · intro n other given rest made hn hbelow hrest
    have hother : R (countLive condition [other]) (countLive condition [other.refill given]) := by
      rw [countLive_singleton, countLive_singleton, refill,
        Node.sequences_refill hbelow.length_eq.symm]
      refine hR.add (hR.refl _) (hR.sum ?_)
      rwa [List.forall₂_map_left_iff, List.forall₂_map_right_iff]
    rw [split, split (other.refill given)]
    exact hR.add (hR.trans (hinto n other hn) hother) hrest
  · intro n other rest made hn hrest
    rw [split, split other]
    exact hR.add (hdone n other hn) hrest

end Counting

namespace Judgement

variable {v : Judgement}

/-- A walk rewrites by the rules that its verdicts keep to, on all live nodes. -/
theorem rewritten_walk {p : Node → Prop} (hv : v.Confined) (text : ∀ data, p (.text data))
    (hverdict : ∀ n, p n → (∃ other smaller, v n = .into other smaller ∧ into n other) ∨
      ∃ other, v n = .done other ∧ done n other)
    (h : Everywhere p nodes) : Rewritten into done nodes (v.walk nodes) := by
  induction nodes using Node.weightAll_induction with
  | step nodes ih =>
  cases nodes with
  | nil =>
      rw [walk_nil]
      exact .nil
  | cons n rest =>
      obtain ⟨hn, hrest⟩ := everywhere_cons.1 h
      have hothers := ih rest (Node.weightAll_lt_cons n rest) hrest
      rw [walk_cons]
      obtain ⟨other, smaller, hinto, hrule⟩ | ⟨other, hdone, hrule⟩ :=
        hverdict n (everywhere_singleton.1 hn).1
      · have hresult : (v n).result? = some other := by rw [hinto]; rfl
        rw [node_into hinto]
        refine .into hrule ?_ hothers
        rw [List.forall₂_map_right_iff, List.forall₂_same]
        intro s hs
        have hweight := Node.weightAll_le_innerWeight hs
        have hle := Node.weight_le_weightAll (List.mem_cons_self (a := n) (l := rest))
        exact ih s (by omega) (hv.everywhere text hresult hn s hs)
      · rw [node_done hdone]
        exact .done hrule hothers

/-- A walk that has one node for the first one is rewritten node by node. -/
theorem rewritten_walk_cons (hlength : (v.walk [n]).length = 1) :
    Rewritten into done (n :: rest) (v.walk (n :: rest)) ↔
      Rewritten into done [n] (v.walk [n]) ∧ Rewritten into done rest (v.walk rest) := by
  obtain ⟨m, hm⟩ := List.length_eq_one_iff.1 hlength
  have hwalk : v.walk (n :: rest) = v.walk [n] ++ v.walk rest := walk_append [n] rest
  rw [hwalk, hm, List.singleton_append, rewritten_cons_cons]

/-- Where the walk goes on and the rule lets the node stay, what is below it tells. -/
theorem throughout_walk_descend {rule : Node → Node → Prop} (hverdict : v n = .descend)
    (hrule : ∀ m, rule n m ↔ m = n) :
    Throughout rule [n] (v.walk [n]) ↔ ∀ s ∈ n.sequences, Throughout rule s (v.walk s) := by
  rw [walk_singleton, node_descend hverdict, Option.toList_some,
    throughout_singleton hrule (List.length_map ..), List.forall₂_map_right_iff, List.forall₂_same]

/-- A walk that goes on below every node rewrites by one rule. -/
theorem throughout_walk {rule : Node → Node → Prop} {p : Node → Prop} (hv : v.Confined)
    (text : ∀ data, p (.text data))
    (hverdict : ∀ n, p n → ∃ other smaller, v n = .into other smaller ∧ rule n other)
    (h : Everywhere p nodes) : Throughout rule nodes (v.walk nodes) :=
  rewritten_walk hv text (fun n hn => .inl (hverdict n hn)) h

end Judgement

end ArticleTree
