import ArticleTree.Node.Sequences

/-! # Live nodes

A node is live in a forest if walks reach it: it stands in the forest itself, or in a
sequence that a live node owns. What is kept inside a `notImplemented` mark is not live.

Putting back as many sequences as a node owns changes these and nothing else, so a tree may
be judged node by node.
-/

namespace ArticleTree

/-! ## Putting sequences back -/

namespace Param

mutual

/-- A parameter takes as many sequences as it owns, and leaves the others. -/
theorem sequences_refill_fst (value : Param) (given : List Forest)
    (h : value.sequences.length ≤ given.length) :
    (value.refill given).1.sequences = given.take value.sequences.length ∧
      (value.refill given).2 = given.drop value.sequences.length := by
  cases value with
  | content nodes =>
      cases given with
      | nil => simp [sequences] at h
      | cons nodes' rest => simp [refill, sequences]
  | list items =>
      simpa only [refill, sequences] using sequencesAll_refillAll_fst items given h
  | text data => simp [refill, sequences]

theorem sequencesAll_refillAll_fst (items : List Param) (given : List Forest)
    (h : (sequencesAll items).length ≤ given.length) :
    sequencesAll (refillAll items given).1 = given.take (sequencesAll items).length ∧
      (refillAll items given).2 = given.drop (sequencesAll items).length := by
  cases items with
  | nil => simp [refillAll, sequencesAll]
  | cons item items =>
      simp only [sequencesAll, List.length_append] at h
      obtain ⟨hfirst, hrest⟩ := sequences_refill_fst item given (by omega)
      obtain ⟨hfirst', hrest'⟩ := sequencesAll_refillAll_fst items
        (given.drop item.sequences.length) (by rw [List.length_drop]; omega)
      simp only [refillAll, sequencesAll, hrest, hfirst, hfirst', hrest', List.length_append,
        List.take_add, List.drop_drop, and_self]

end

theorem sequencesByKey_refillByKey (params : List (String × Param)) (given : List Forest)
    (h : given.length = (sequencesByKey params).length) :
    sequencesByKey (refillByKey params given) = given := by
  induction params generalizing given with
  | nil => simpa [refillByKey, sequencesByKey, eq_comm] using h
  | cons entry params ih =>
      obtain ⟨key, value⟩ := entry
      simp only [sequencesByKey, List.length_append] at h
      obtain ⟨hfirst, hrest⟩ := sequences_refill_fst value given (by omega)
      have hothers := ih (given.drop value.sequences.length) (by rw [List.length_drop]; omega)
      simp only [refillByKey, sequencesByKey, hfirst, hrest, hothers, List.take_append_drop]

mutual

theorem refill_sequences_append (value : Param) (rest : List Forest) :
    value.refill (value.sequences ++ rest) = (value, rest) := by
  cases value with
  | content nodes => rfl
  | list items => simp only [refill, sequences, refillAll_sequencesAll_append]
  | text data => rfl

theorem refillAll_sequencesAll_append (items : List Param) (rest : List Forest) :
    refillAll items (sequencesAll items ++ rest) = (items, rest) := by
  cases items with
  | nil => rfl
  | cons item items =>
      simp only [refillAll, sequencesAll, List.append_assoc, refill_sequences_append item,
        refillAll_sequencesAll_append items]

end

theorem refillByKey_sequencesByKey (params : List (String × Param)) :
    refillByKey params (sequencesByKey params) = params := by
  induction params with
  | nil => rfl
  | cons entry params ih =>
      simp only [refillByKey, sequencesByKey, refill_sequences_append, ih]

/-- Parsed parameters stay parsed, and written ones as they were written. -/
theorem exists_of_mem_refillByKey {params : List (String × Param)} {given : List Forest}
    {key : String} {value : Param} (h : (key, value) ∈ refillByKey params given) :
    ∃ old rest, (key, old) ∈ params ∧ value = (old.refill rest).1 := by
  induction params generalizing given with
  | nil => simp [refillByKey] at h
  | cons entry params ih =>
      obtain ⟨k, v⟩ := entry
      simp only [refillByKey, List.mem_cons, Prod.mk.injEq] at h
      rcases h with ⟨rfl, rfl⟩ | h
      · exact ⟨v, given, List.mem_cons_self, rfl⟩
      · obtain ⟨old, rest, hmem, hvalue⟩ := ih h
        exact ⟨old, rest, List.mem_cons_of_mem _ hmem, hvalue⟩

theorem mem_sequencesAll {items : List Param} {s : Forest} :
    s ∈ sequencesAll items ↔ ∃ item ∈ items, s ∈ item.sequences := by
  induction items with
  | nil => simp [sequencesAll]
  | cons item items ih => simp [sequencesAll, ih]

theorem mem_sequencesByKey {params : List (String × Param)} {s : Forest} :
    s ∈ sequencesByKey params ↔ ∃ key value, (key, value) ∈ params ∧ s ∈ value.sequences := by
  induction params with
  | nil => simp [sequencesByKey]
  | cons entry params ih =>
      obtain ⟨k, v⟩ := entry
      simp only [sequencesByKey, List.mem_append, ih, List.mem_cons, Prod.mk.injEq]
      constructor
      · rintro (hs | ⟨key, value, hmem, hs⟩)
        · exact ⟨k, v, .inl ⟨rfl, rfl⟩, hs⟩
        · exact ⟨key, value, .inr hmem, hs⟩
      · rintro ⟨key, value, ⟨rfl, rfl⟩ | hmem, hs⟩
        · exact .inl hs
        · exact .inr ⟨key, value, hmem, hs⟩

mutual

/-- A parameter as a sequence is made of its parsed sequences and of texts. -/
theorem mem_toForest {value : Param} {m : Node} (h : m ∈ value.toForest) :
    (∃ s ∈ value.sequences, m ∈ s) ∨ ∃ data, m = .text data := by
  cases value with
  | content nodes => exact .inl ⟨nodes, List.mem_singleton.2 rfl, h⟩
  | list items => exact mem_toForestAll (by simpa only [toForest] using h)
  | text data =>
      simp only [toForest] at h
      split at h
      · cases h
      · exact .inr ⟨data, List.mem_singleton.1 h⟩

theorem mem_toForestAll {items : List Param} {m : Node} (h : m ∈ toForestAll items) :
    (∃ s ∈ sequencesAll items, m ∈ s) ∨ ∃ data, m = .text data := by
  cases items with
  | nil => cases h
  | cons item items =>
      rcases List.mem_append.1 h with h | h
      · exact (mem_toForest h).imp_left fun ⟨s, hs, hm⟩ => ⟨s, List.mem_append_left _ hs, hm⟩
      · exact (mem_toForestAll h).imp_left fun ⟨s, hs, hm⟩ => ⟨s, List.mem_append_right _ hs, hm⟩

end

end Param

namespace Node

@[simp] theorem kind_refill (n : Node) (given : List Forest) :
    (n.refill given).kind = n.kind := by
  cases n <;> rfl

@[simp] theorem name?_refill (n : Node) (given : List Forest) :
    (n.refill given).name? = n.name? := by
  cases n <;> rfl

@[simp] theorem attr?_refill (n : Node) (given : List Forest) (key : String) :
    (n.refill given).attr? key = n.attr? key := by
  cases n <;> rfl

/-- A node that is given as many sequences as it owns has these for its own. -/
theorem sequences_refill {n : Node} {given : List Forest}
    (h : given.length = n.sequences.length) : (n.refill given).sequences = given := by
  cases n with
  | template name params => exact Param.sequencesByKey_refillByKey params given h
  | list ordered items => rfl
  | element | block | header | image | gallery | galleryItem =>
      obtain ⟨nodes, rfl⟩ := List.length_eq_one_iff.1 h
      rfl
  | text | equation | inlineMath | error | notImplemented =>
      exact (List.eq_nil_of_length_eq_zero h).symm

@[simp] theorem refill_sequences (n : Node) : n.refill n.sequences = n := by
  cases n with
  | template name params =>
      exact congrArg (Node.template name) (Param.refillByKey_sequencesByKey params)
  | _ => rfl

end Node

/-! ## Live nodes -/

/-- The node is live in the forest. -/
inductive Live (n : Node) : Forest → Prop where
  | among {nodes : Forest} : n ∈ nodes → Live n nodes
  | inside {nodes : Forest} {m : Node} {s : Forest} :
      m ∈ nodes → s ∈ m.sequences → Live n s → Live n nodes

/-- All live nodes of the forest have the property. -/
def Everywhere (p : Node → Prop) (nodes : Forest) : Prop :=
  ∀ n, Live n nodes → p n

section Everywhere

variable {p q : Node → Prop}

theorem everywhere_iff {nodes : Forest} :
    Everywhere p nodes ↔ ∀ n ∈ nodes, p n ∧ ∀ s ∈ n.sequences, Everywhere p s := by
  constructor
  · intro h n hn
    exact ⟨h n (.among hn), fun s hs m hm => h m (.inside hn hs hm)⟩
  · intro h n hn
    cases hn with
    | among hn => exact (h n hn).1
    | inside hm hs hn => exact (h _ hm).2 _ hs n hn

@[simp] theorem everywhere_nil : Everywhere p [] := by
  intro n hn
  cases hn with
  | among hn => cases hn
  | inside hm => cases hm

theorem everywhere_singleton {n : Node} :
    Everywhere p [n] ↔ p n ∧ ∀ s ∈ n.sequences, Everywhere p s := by
  rw [everywhere_iff]
  simp only [List.mem_singleton, forall_eq]

theorem everywhere_iff_forall_mem {nodes : Forest} :
    Everywhere p nodes ↔ ∀ n ∈ nodes, Everywhere p [n] := by
  simp only [@everywhere_iff p nodes, everywhere_singleton]

theorem everywhere_cons {n : Node} {nodes : Forest} :
    Everywhere p (n :: nodes) ↔ Everywhere p [n] ∧ Everywhere p nodes := by
  simp only [@everywhere_iff_forall_mem p (n :: nodes), List.forall_mem_cons,
    ← everywhere_iff_forall_mem]

/-- The first of several nodes by itself. -/
theorem everywhere_cons_cons {n m : Node} {nodes : Forest} :
    Everywhere p (n :: m :: nodes) ↔ Everywhere p [n] ∧ Everywhere p (m :: nodes) :=
  everywhere_cons

theorem everywhere_append {xs ys : Forest} :
    Everywhere p (xs ++ ys) ↔ Everywhere p xs ∧ Everywhere p ys := by
  simp only [@everywhere_iff_forall_mem p (xs ++ ys), List.forall_mem_append,
    ← everywhere_iff_forall_mem]

@[simp] theorem everywhere_reverse {nodes : Forest} :
    Everywhere p nodes.reverse ↔ Everywhere p nodes := by
  simp only [@everywhere_iff p nodes.reverse, @everywhere_iff p nodes,
    List.mem_reverse]

theorem Everywhere.mono {nodes : Forest} (h : Everywhere p nodes) (hpq : ∀ n, p n → q n) :
    Everywhere q nodes :=
  fun n hn => hpq n (h n hn)

theorem Live.trans {n m : Node} {nodes : Forest} (hn : Live n [m]) (hm : Live m nodes) :
    Live n nodes := by
  induction hm with
  | among hm =>
      cases hn with
      | among hn => exact .among (List.mem_singleton.1 hn ▸ hm)
      | inside hm' hs hn => exact .inside (List.mem_singleton.1 hm' ▸ hm) hs hn
  | inside hm hs _ ih => exact .inside hm hs ih

theorem Everywhere.of_live {m : Node} {nodes : Forest} (h : Everywhere p nodes)
    (hm : Live m nodes) : Everywhere p [m] :=
  fun n hn => h n (hn.trans hm)

end Everywhere

/-! ## Induction -/

namespace Node

theorem weightAll_lt_cons (n : Node) (rest : Forest) : weightAll rest < weightAll (n :: rest) := by
  have := n.weight_pos
  simp only [weightAll]
  omega

theorem weightAll_lt_of_mem_sequences {n : Node} {nodes s : Forest} (hn : n ∈ nodes)
    (hs : s ∈ n.sequences) : weightAll s < weightAll nodes :=
  calc
    weightAll s ≤ n.innerWeight := weightAll_le_innerWeight hs
    _ < n.weight := n.innerWeight_lt
    _ ≤ weightAll nodes := weight_le_weightAll hn

/-- Induction on the weight of a forest: what holds of a forest if it holds of everything
    lighter holds of every forest. -/
theorem weightAll_induction {P : Forest → Prop}
    (step : ∀ nodes, (∀ s, weightAll s < weightAll nodes → P s) → P nodes)
    (nodes : Forest) : P nodes :=
  step nodes fun s _ => weightAll_induction step s
termination_by weightAll nodes

end Node

end ArticleTree
