import ArticleTree.Proofs.Node.Slot

/-! # Positions in a forest

A position leads from a forest to a node in it, through slots of the nodes above. Positions are
in document order: a node comes before what it owns, and what it owns before the nodes after it.
Of the nodes that a condition holds for, those are outermost that have none of them above.
-/

namespace ArticleTree

/-- Where a node stands in a forest: by its number among the nodes of the forest, or in a sequence
    that one of these owns. -/
inductive Position where
  | here (index : Nat)
  | inside (index : Nat) (slot : Slot) (position : Position)
  deriving DecidableEq, Repr

namespace Position

/-- The node at a position. -/
def node? : Position → Forest → Option Node
  | here i, nodes => nodes[i]?
  | inside i slot position, nodes =>
      (nodes[i]?.bind (Node.sequence? slot)).bind position.node?

/-- The position is that of a node above the other. -/
def Above : Position → Position → Prop
  | here i, inside j _ _ => i = j
  | inside i slot p, inside j slot' q => i = j ∧ slot = slot' ∧ p.Above q
  | _, here _ => False

/-- Document order. -/
def Before : Position → Position → Prop
  | here i, here j => i < j
  | here i, inside j _ _ => i ≤ j
  | inside i _ _, here j => i < j
  | inside i slot p, inside j slot' q =>
      i < j ∨ i = j ∧ (slot.Before slot' ∨ slot = slot' ∧ p.Before q)

/-- Put other nodes in the place of the node at a position. -/
def splice (new : Forest) : Position → Forest → Forest
  | here i, nodes => nodes.take i ++ new ++ nodes.drop (i + 1)
  | inside i slot position, nodes => nodes.modify i (Node.modify (position.splice new) slot)

/-- Put other nodes in the places of those at several positions. The last is the first to go, so
    that the others are still where they were. -/
def exchange (changes : List (Position × Forest)) (nodes : Forest) : Forest :=
  changes.foldr (fun change nodes => change.1.splice change.2 nodes) nodes

/-- The condition holds for the node at the position, and for none above it. -/
structure IsOutermost (condition : Node → Bool) (nodes : Forest) (position : Position) : Prop where
  holds : ∃ n, position.node? nodes = some n ∧ condition n = true
  clear : ∀ above : Position, above.Above position → ∀ n, above.node? nodes = some n →
    condition n = false

/-- The same position, if one more node stands before all others. -/
def next : Position → Position
  | here i => here (i + 1)
  | inside i slot position => inside (i + 1) slot position

/-- The outermost nodes that the condition holds for, with their positions, in document order. -/
def outermost (condition : Node → Bool) : Forest → List (Position × Node)
  | [] => []
  | n :: rest =>
      (if condition n then [(here 0, n)]
        else n.slots.attach.flatMap fun entry =>
          (outermost condition entry.1.2).map (Prod.map (inside 0 entry.1.1) id)) ++
        (outermost condition rest).map (Prod.map next id)
termination_by nodes => Node.weightAll nodes
decreasing_by
  · have hs := Node.mem_sequences_of_mem_slots entry.2
    exact Node.weightAll_lt_of_mem_sequences List.mem_cons_self hs
  · exact Node.weightAll_lt_cons n rest

variable {condition : Node → Bool} {n m : Node} {nodes rest : Forest} {slot : Slot}

@[simp] theorem outermost_nil : outermost condition [] = [] := by
  rw [outermost]

theorem outermost_cons (n : Node) (rest : Forest) :
    outermost condition (n :: rest) =
      (if condition n then [(here 0, n)]
        else n.slots.flatMap fun entry =>
          (outermost condition entry.2).map (Prod.map (inside 0 entry.1) id)) ++
        (outermost condition rest).map (Prod.map next id) := by
  have hattach (g : Slot × Forest → List (Position × Node)) :
      (n.slots.attach.flatMap fun entry => g entry.1) = n.slots.flatMap g := by
    conv => rhs; rw [← List.attach_map_subtype_val n.slots, List.flatMap_map]
  rw [outermost, hattach fun entry =>
    (outermost condition entry.2).map (Prod.map (inside 0 entry.1) id)]

/-- The nodes at positions are those that are live. -/
theorem exists_node?_iff_live (hnodes : Node.allOrdered nodes = true) :
    (∃ position : Position, position.node? nodes = some n) ↔ Live n nodes := by
  constructor
  · rintro ⟨position, h⟩
    induction position generalizing nodes with
    | here i => exact .among (List.mem_of_getElem? h)
    | inside i slot position ih =>
        obtain ⟨s, hs, hn⟩ := Option.bind_eq_some_iff.1 h
        obtain ⟨m, hm, hs⟩ := Option.bind_eq_some_iff.1 hs
        have hmem := List.mem_of_getElem? hm
        have hordered := Node.allOrdered_iff.1 hnodes m hmem
        have hs := Node.mem_sequences_of_mem_slots ((Node.mem_slots hordered).2 hs)
        exact .inside hmem hs (ih (Node.allOrdered_of_mem_sequences hordered hs) hn)
  · intro h
    induction h with
    | among hn =>
        obtain ⟨i, hi⟩ := List.mem_iff_getElem?.1 hn
        exact ⟨here i, hi⟩
    | @inside nodes m s hm hs _ ih =>
        have hordered := Node.allOrdered_iff.1 hnodes m hm
        obtain ⟨position, hposition⟩ := ih (Node.allOrdered_of_mem_sequences hordered hs)
        obtain ⟨i, hi⟩ := List.mem_iff_getElem?.1 hm
        rw [← m.map_snd_slots] at hs
        obtain ⟨⟨slot, s⟩, hslot, rfl⟩ := List.mem_map.1 hs
        refine ⟨inside i slot position, ?_⟩
        rw [node?, hi, Option.bind_some, (Node.mem_slots hordered).1 hslot]
        exact hposition

/-! ## One more node -/

@[simp] theorem next_inj {p q : Position} : p.next = q.next ↔ p = q := by
  cases p <;> cases q <;> simp [next]

@[simp] theorem here_zero_ne_next (position : Position) : here 0 ≠ position.next := by
  cases position <;> simp [next]

@[simp] theorem next_ne_here_zero (position : Position) : position.next ≠ here 0 :=
  (here_zero_ne_next position).symm

@[simp] theorem inside_zero_ne_next (slot : Slot) (position other : Position) :
    inside 0 slot position ≠ other.next := by
  cases other <;> simp [next]

@[simp] theorem next_ne_inside_zero (slot : Slot) (position other : Position) :
    other.next ≠ inside 0 slot position :=
  (inside_zero_ne_next slot position other).symm

@[simp] theorem node?_next (position : Position) (n : Node) (rest : Forest) :
    position.next.node? (n :: rest) = position.node? rest := by
  cases position <;> simp [next, node?]

theorem node?_inside_zero (slot : Slot) (position : Position) (n : Node) (rest : Forest) :
    (inside 0 slot position).node? (n :: rest) = (n.sequence? slot).bind position.node? := rfl

@[simp] theorem next_above_next {p q : Position} : p.next.Above q.next ↔ p.Above q := by
  cases p <;> cases q <;> simp [next, Above]

theorem exists_of_above_next {p q : Position} (h : p.Above q.next) : ∃ above, p = next above := by
  cases p with
  | here i =>
      cases q with
      | here j => cases h
      | inside j slot q =>
          obtain rfl : i = j + 1 := h
          exact ⟨here j, rfl⟩
  | inside i slot p =>
      cases q with
      | here j => cases h
      | inside j slot' q =>
          obtain rfl : i = j + 1 := h.1
          exact ⟨inside j slot p, rfl⟩

@[simp] theorem next_before_next {p q : Position} : p.next.Before q.next ↔ p.Before q := by
  cases p <;> cases q <;> simp [next, Before]

@[simp] theorem isOutermost_next {position : Position} :
    position.next.IsOutermost condition (n :: rest) ↔ position.IsOutermost condition rest := by
  constructor
  · rintro ⟨⟨m, hm, hcondition⟩, hclear⟩
    refine ⟨⟨m, by simpa using hm, hcondition⟩, ?_⟩
    intro above habove m hm
    exact hclear above.next (next_above_next.2 habove) m (by simpa using hm)
  · rintro ⟨⟨m, hm, hcondition⟩, hclear⟩
    refine ⟨⟨m, by simpa using hm, hcondition⟩, ?_⟩
    intro above habove m hm
    obtain ⟨above, rfl⟩ := exists_of_above_next habove
    exact hclear above (next_above_next.1 habove) m (by simpa using hm)

theorem isOutermost_here_zero :
    (here 0).IsOutermost condition (n :: rest) ↔ condition n = true := by
  constructor
  · rintro ⟨⟨m, hm, hcondition⟩, -⟩
    cases hm
    exact hcondition
  · intro hcondition
    refine ⟨⟨n, rfl, hcondition⟩, ?_⟩
    intro above habove
    cases above <;> cases habove

theorem isOutermost_inside_zero {position : Position} :
    (inside 0 slot position).IsOutermost condition (n :: rest) ↔
      condition n = false ∧ ∃ s, n.sequence? slot = some s ∧ position.IsOutermost condition s := by
  constructor
  · rintro ⟨⟨m, hm, hcondition⟩, hclear⟩
    obtain ⟨s, hs, hm⟩ := Option.bind_eq_some_iff.1 (node?_inside_zero slot position n rest ▸ hm)
    refine ⟨hclear (here 0) rfl n rfl, s, hs, ⟨m, hm, hcondition⟩, ?_⟩
    intro above habove m hm
    apply hclear (inside 0 slot above) ⟨rfl, rfl, habove⟩
    rw [node?_inside_zero, hs]
    exact hm
  · rintro ⟨hn, s, hs, ⟨m, hm, hcondition⟩, hclear⟩
    constructor
    · refine ⟨m, ?_, hcondition⟩
      rw [node?_inside_zero, hs]
      exact hm
    · intro above habove m hm
      cases above with
      | here i =>
          obtain rfl : i = 0 := habove
          cases hm
          exact hn
      | inside i slot' above =>
          obtain ⟨rfl, rfl, habove⟩ := habove
          rw [node?_inside_zero, hs] at hm
          exact hclear above habove m hm

/-! ## The list of the outermost nodes -/

theorem mem_outermost_next {q : Position} :
    (q.next, n) ∈ outermost condition (m :: rest) ↔ (q, n) ∈ outermost condition rest := by
  rw [outermost_cons]
  cases condition m <;> simp

theorem mem_outermost_here_zero :
    (here 0, n) ∈ outermost condition (m :: rest) ↔ condition m = true ∧ n = m := by
  rw [outermost_cons]
  cases condition m <;> simp

theorem mem_outermost_inside_zero (hm : m.isOrdered = true) {q : Position} :
    (inside 0 slot q, n) ∈ outermost condition (m :: rest) ↔
      condition m = false ∧ ∃ s, m.sequence? slot = some s ∧ (q, n) ∈ outermost condition s := by
  rw [outermost_cons]
  cases condition m <;> simp [Node.mem_slots hm]

theorem mem_outermost (hnodes : Node.allOrdered nodes = true) {position : Position} :
    (position, n) ∈ outermost condition nodes ↔
      position.node? nodes = some n ∧ position.IsOutermost condition nodes := by
  induction nodes using Node.weightAll_induction generalizing position with
  | step nodes ih =>
  cases nodes with
  | nil => cases position <;> simp [node?]
  | cons m rest =>
      simp only [Node.allOrdered, Bool.and_eq_true] at hnodes
      obtain ⟨hm, hothers⟩ := hnodes
      have hrest {q : Position} : (q.next, n) ∈ outermost condition (m :: rest) ↔
          q.next.node? (m :: rest) = some n ∧ q.next.IsOutermost condition (m :: rest) := by
        rw [mem_outermost_next, node?_next, isOutermost_next]
        exact ih rest (Node.weightAll_lt_cons m rest) hothers
      cases position with
      | here i =>
          cases i with
          | zero =>
              have hfound : (here 0).node? (m :: rest) = some n ↔ n = m := by simp [node?, eq_comm]
              rw [mem_outermost_here_zero, isOutermost_here_zero, hfound, and_comm]
          | succ i => exact @hrest (here i)
      | inside i slot q =>
          cases i with
          | succ i => exact @hrest (inside i slot q)
          | zero =>
              have hbelow (s : Forest) (hs : m.sequence? slot = some s) :
                  (q, n) ∈ outermost condition s ↔
                    q.node? s = some n ∧ q.IsOutermost condition s := by
                have hmem := Node.mem_sequences_of_mem_slots ((Node.mem_slots hm).2 hs)
                exact ih s (Node.weightAll_lt_of_mem_sequences List.mem_cons_self hmem)
                  (Node.allOrdered_of_mem_sequences hm hmem)
              rw [mem_outermost_inside_zero hm, isOutermost_inside_zero, node?_inside_zero]
              cases hslot : m.sequence? slot with
              | none => simp
              | some s =>
                  simp only [Option.some.injEq, exists_eq_left', Option.bind_some, hbelow s hslot]
                  exact and_left_comm

theorem here_zero_before_next (q : Position) : (here 0).Before q.next := by
  cases q <;> simp [next, Before]

theorem inside_zero_before_next (slot : Slot) (p q : Position) :
    (inside 0 slot p).Before q.next := by
  cases q <;> simp [next, Before]

theorem pairwise_outermost (hnodes : Node.allOrdered nodes = true) :
    (outermost condition nodes).Pairwise fun a b => a.1.Before b.1 := by
  induction nodes using Node.weightAll_induction with
  | step nodes ih =>
  cases nodes with
  | nil => simp
  | cons n rest =>
      simp only [Node.allOrdered, Bool.and_eq_true] at hnodes
      obtain ⟨hn, hothers⟩ := hnodes
      have hrest := ih rest (Node.weightAll_lt_cons n rest) hothers
      rw [outermost_cons, List.pairwise_append, List.pairwise_map]
      refine ⟨?_, hrest.imp next_before_next.2, ?_⟩
      · split
        · exact List.pairwise_singleton _ _
        · rw [List.pairwise_flatMap]
          constructor
          · intro entry hentry
            have hs := Node.mem_sequences_of_mem_slots hentry
            have hbelow := ih entry.2 (Node.weightAll_lt_of_mem_sequences List.mem_cons_self hs)
              (Node.allOrdered_of_mem_sequences hn hs)
            rw [List.pairwise_map]
            exact hbelow.imp fun h => .inr ⟨rfl, .inr ⟨rfl, h⟩⟩
          · refine (Node.pairwise_slots hn).imp fun h => ?_
            intro a ha b hb
            obtain ⟨_, -, rfl⟩ := List.mem_map.1 ha
            obtain ⟨_, -, rfl⟩ := List.mem_map.1 hb
            exact .inr ⟨rfl, .inl h⟩
      · intro a ha b hb
        obtain ⟨_, -, rfl⟩ := List.mem_map.1 hb
        split at ha
        · obtain rfl := List.mem_singleton.1 ha
          exact here_zero_before_next _
        · obtain ⟨_, -, ha⟩ := List.mem_flatMap.1 ha
          obtain ⟨_, -, rfl⟩ := List.mem_map.1 ha
          exact inside_zero_before_next _ _ _

/-- The list has all outermost nodes that the condition holds for, each with its position, and
    they are in document order. -/
structure AreOutermost (condition : Node → Bool) (nodes : Forest)
    (stops : List (Position × Node)) : Prop where
  order : stops.Pairwise fun a b => a.1.Before b.1
  mem : ∀ position n, (position, n) ∈ stops ↔
    position.node? nodes = some n ∧ position.IsOutermost condition nodes

theorem areOutermost_outermost (hnodes : Node.allOrdered nodes = true) :
    AreOutermost condition nodes (outermost condition nodes) where
  order := pairwise_outermost hnodes
  mem _ _ := mem_outermost hnodes

theorem AreOutermost.holds {stops : List (Position × Node)} {stop : Position × Node}
    (h : AreOutermost condition nodes stops) (hstop : stop ∈ stops) :
    condition stop.2 = true := by
  obtain ⟨hfound, ⟨m, hm, hcondition⟩, -⟩ := (h.mem stop.1 stop.2).1 hstop
  rw [hfound] at hm
  cases hm
  exact hcondition

theorem Before.asymm {p q : Position} (h : p.Before q) : ¬ q.Before p := by
  induction p generalizing q with
  | here i => cases q <;> simp only [Before] at h ⊢ <;> omega
  | inside i slot p ih =>
      cases q with
      | here j =>
          simp only [Before] at h ⊢
          omega
      | inside j slot' q =>
          simp only [Before] at h ⊢
          rintro (hlt | ⟨rfl, hslot | ⟨rfl, hbefore⟩⟩)
          · omega
          · rcases h with h | ⟨-, h | ⟨rfl, -⟩⟩
            · omega
            · exact h.asymm hslot
            · exact hslot.ne rfl
          · rcases h with h | ⟨-, h | ⟨-, h⟩⟩
            · omega
            · exact h.ne rfl
            · exact ih h hbefore

/-- There is only one such list, so no node stands in it twice. -/
theorem AreOutermost.unique {stops stops' : List (Position × Node)}
    (h : AreOutermost condition nodes stops) (h' : AreOutermost condition nodes stops') :
    stops = stops' := by
  have hnodup {stops : List (Position × Node)} (h : AreOutermost condition nodes stops) :
      stops.Nodup := by
    refine h.order.imp ?_
    rintro a b hbefore rfl
    exact hbefore.asymm hbefore
  have hperm : stops.Perm stops' := by
    rw [List.perm_ext_iff_of_nodup (hnodup h) (hnodup h')]
    intro stop
    rw [h.mem, h'.mem]
  refine hperm.eq_of_pairwise ?_ h.order h'.order
  intro a b _ _ hab hba
  exact absurd hba hab.asymm

/-! ## Several changes -/

theorem exchange_append (xs ys : List (Position × Forest)) (nodes : Forest) :
    exchange (xs ++ ys) nodes = exchange xs (exchange ys nodes) :=
  List.foldr_append

theorem splice_next (position : Position) (new : Forest) (n : Node) (rest : Forest) :
    position.next.splice new (n :: rest) = n :: position.splice new rest := by
  cases position <;> simp [next, splice]

/-- Changes among the other nodes leave the first. -/
theorem exchange_next (changes : List (Position × Forest)) (n : Node) (rest : Forest) :
    exchange (changes.map (Prod.map next id)) (n :: rest) = n :: exchange changes rest := by
  induction changes with
  | nil => rfl
  | cons change changes ih =>
      simp only [exchange, List.map_cons, List.foldr_cons] at ih ⊢
      rw [ih]
      exact splice_next change.1 change.2 n _

/-- Changes at one slot of the first node. -/
theorem exchange_inside (changes : List (Position × Forest)) (slot : Slot) (n : Node)
    (rest : Forest) :
    exchange (changes.map (Prod.map (inside 0 slot) id)) (n :: rest) =
      n.modify (exchange changes) slot :: rest := by
  induction changes with
  | nil => exact congrArg (· :: rest) (n.modify_id slot).symm
  | cons change changes ih =>
      simp only [exchange, List.map_cons, List.foldr_cons] at ih ⊢
      rw [ih]
      exact congrArg (· :: rest) (n.modify_modify _ _ slot)

/-- Changes at all slots of the first node. -/
theorem exchange_slots (hn : n.isOrdered = true) (rest : Forest)
    {parts : List (Slot × Forest × List (Position × Forest))}
    (h : parts.map (fun part => (part.1, part.2.1)) = n.slots) :
    exchange (parts.flatMap fun part => part.2.2.map (Prod.map (inside 0 part.1) id)) (n :: rest) =
      n.refill (parts.map fun part => exchange part.2.2 part.2.1) :: rest := by
  have hdone (parts : List (Slot × Forest × List (Position × Forest))) :
      exchange (parts.flatMap fun part => part.2.2.map (Prod.map (inside 0 part.1) id))
          (n :: rest) =
        parts.foldr (fun part m => m.modify (exchange part.2.2) part.1) n :: rest := by
    induction parts with
    | nil => rfl
    | cons part parts ih =>
        rw [List.flatMap_cons, exchange_append, ih, exchange_inside, List.foldr_cons]
  have hslots := @Node.foldr_modify_slots n hn
    (parts.map fun part => (part.1, part.2.1, exchange part.2.2)) (by rw [List.map_map]; exact h)
  rw [List.foldr_map, List.map_map] at hslots
  rw [hdone, hslots]
  rfl

end Position

end ArticleTree
