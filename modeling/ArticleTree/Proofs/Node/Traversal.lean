import ArticleTree.Proofs.Node.Slot

/-! # Passing what a node owns through a function

A function that keeps a state and may fail is applied to the sequences that a node owns, to each
once and in order, until it fails. Its answers take the places of the sequences, and all else in
the node stays. So for functions without effects it makes no difference whether a node is gone
through twice, or once with both functions.
-/

namespace ArticleTree

/-- A function on sequences that keeps a state and may fail. What it did to the state before it
    failed stays done. -/
abbrev Worker (ε σ : Type) := Forest → ExceptT ε (StateM σ) Forest

/-- An application of a function to a sequence that a node owns. -/
structure Application where
  /-- Where the sequence is in the node. -/
  slot : Slot
  given : Forest
  answer : Forest

/-- The sequence that the function was applied to, with its slot. -/
def Application.place (application : Application) : Slot × Forest :=
  (application.slot, application.given)

variable {α β ε σ : Type}

/-- Applications in a row: each starts in the state that the one before left. -/
inductive Applied (f : Worker ε σ) : (before : σ) → List Application → (after : σ) → Prop where
  | nil {state : σ} : Applied f state [] state
  | cons {slot : Slot} {s answer : Forest} {before between after : σ} {rest : List Application} :
      (f s).run.run before = (.ok answer, between) → Applied f between rest after →
        Applied f before (⟨slot, s, answer⟩ :: rest) after

namespace Node

/-- These are the sequences that the node owns with their slots, each once and in order. -/
structure Owns (n : Node) (owned : List (Slot × Forest)) : Prop where
  mem_iff : ∀ slot s, (slot, s) ∈ owned ↔ n.sequence? slot = some s
  inOrder : owned.Pairwise fun a b => a.1.Before b.1

/-- The node with nothing in its sequences. -/
def emptied (n : Node) : Node :=
  n.mapSlots fun _ _ => []

/-- One node is the other with the answers in the slots of the applications. -/
structure Exchanged (n : Node) (applied : List Application) (other : Node) : Prop where
  /-- What is in no sequence is as it was. -/
  frame : other.emptied = n.emptied
  answers : ∀ application ∈ applied, other.sequence? application.slot = some application.answer

/-- What comes of passing the sequences that a node owns through a function, and the state that
    is left. -/
inductive Traversed (f : Worker ε σ) (n : Node) (before : σ) : Except ε Node × σ → Prop where
  /-- The function was applied to all of them. -/
  | whole {applied : List Application} {other : Node} {after : σ} :
      n.Owns (applied.map Application.place) → Applied f before applied after →
        n.Exchanged applied other → Traversed f n before (.ok other, after)
  /-- The function failed, and was not applied to those that come later. -/
  | stopped {applied : List Application} {slot : Slot} {s : Forest} {later : List (Slot × Forest)}
      {between after : σ} {reason : ε} :
      n.Owns (applied.map Application.place ++ (slot, s) :: later) →
        Applied f before applied between → (f s).run.run between = (.error reason, after) →
          Traversed f n before (.error reason, after)

end Node

/-! ## Applications in a row -/

theorem run_bind (action : ExceptT ε (StateM σ) α) (k : α → ExceptT ε (StateM σ) β) (state : σ) :
    (action >>= k).run.run state =
      match action.run.run state with
      | (.ok value, after) => (k value).run.run after
      | (.error reason, after) => (.error reason, after) := by
  simp only [ExceptT.run_bind, StateT.run_bind]
  change (match action.run.run state with | (result, after) => _) = _
  cases action.run.run state with
  | mk result after => cases result <;> rfl

/-- The function is applied to one sequence after the other, until it fails. -/
theorem mapM_worker (f : Worker ε σ) (places : List (Slot × Forest)) (before : σ) :
    (∃ applied after, applied.map Application.place = places ∧ Applied f before applied after ∧
      ((places.map Prod.snd).mapM f).run.run before =
        (.ok (applied.map Application.answer), after)) ∨
    ∃ applied slot s later between reason after,
      places = applied.map Application.place ++ (slot, s) :: later ∧
        Applied f before applied between ∧ (f s).run.run between = (.error reason, after) ∧
          ((places.map Prod.snd).mapM f).run.run before = (.error reason, after) := by
  induction places generalizing before with
  | nil => exact .inl ⟨[], before, rfl, .nil, rfl⟩
  | cons place places ih =>
      obtain ⟨slot, s⟩ := place
      rw [List.map_cons, List.mapM_cons, run_bind]
      cases hfirst : (f s).run.run before with
      | mk result between =>
      cases result with
      | error reason =>
          exact .inr ⟨[], slot, s, places, before, reason, between, rfl, .nil, hfirst, rfl⟩
      | ok answer =>
          dsimp only
          rw [run_bind]
          rcases ih between with ⟨applied, after, hplaces, happlied, hrun⟩ |
              ⟨applied, slot', s', later, stop, reason, after, hplaces, happlied, hfail, hrun⟩
          · rw [hrun]
            exact .inl ⟨⟨slot, s, answer⟩ :: applied, after, by rw [List.map_cons, hplaces]; rfl,
              .cons hfirst happlied, rfl⟩
          · rw [hrun]
            exact .inr ⟨⟨slot, s, answer⟩ :: applied, slot', s', later, stop, reason, after,
              by rw [hplaces]; rfl, .cons hfirst happlied, hfail, rfl⟩

/-! ## What is in the slots afterwards -/

namespace Param

mutual

theorem at?_mapSlots (f : List Nat → Forest → Forest) (value : Param) (path : List Nat) :
    (value.mapSlots f).at? path = (value.at? path).map (f path) := by
  cases value with
  | content nodes => cases path <;> rfl
  | list items =>
      cases path with
      | nil => rfl
      | cons i path =>
          have hitem := at?_mapSlotsFrom f items 0 i path
          rwa [Nat.zero_add] at hitem
  | text data => cases path <;> rfl

theorem at?_mapSlotsFrom (f : List Nat → Forest → Forest) (items : List Param) (i j : Nat)
    (path : List Nat) : (mapSlotsFrom f i items)[j]?.bind (at? path) =
      (items[j]?.bind (at? path)).map (f ((i + j) :: path)) := by
  cases items with
  | nil => rfl
  | cons item items =>
      cases j with
      | zero => exact at?_mapSlots (fun path => f (i :: path)) item path
      | succ j =>
          have hlater := at?_mapSlotsFrom f items (i + 1) j path
          rwa [Nat.add_assoc, Nat.add_comm 1 j] at hlater

end

end Param

namespace Node

variable {n : Node}

theorem get?_mapSlots (f : Slot → Forest → Forest) (params : List (String × Param))
    (key : String) :
    Keyed.get? key (params.map fun (key, value) =>
        (key, value.mapSlots fun path => f (.param key path))) =
      (Keyed.get? key params).map fun value => value.mapSlots fun path => f (.param key path) := by
  induction params with
  | nil => rfl
  | cons param params ih =>
      obtain ⟨other, value⟩ := param
      simp only [List.map_cons, Keyed.get?]
      split
      · rename_i hkey
        rw [hkey, Option.map_some]
      · exact ih

theorem sequence?_mapSlots (f : Slot → Forest → Forest) (n : Node) (slot : Slot) :
    (n.mapSlots f).sequence? slot = (n.sequence? slot).map (f slot) := by
  cases n with
  | list ordered items => cases slot <;> simp [mapSlots, sequence?]
  | template name params =>
      cases slot with
      | param key path =>
          simp only [mapSlots, sequence?, get?_mapSlots]
          cases Keyed.get? key params with
          | none => rfl
          | some value => exact value.at?_mapSlots _ path
      | children => rfl
      | item i => rfl
  | _ => cases slot <;> rfl

theorem owns_slots (hn : n.isOrdered = true) : n.Owns n.slots where
  mem_iff _ _ := mem_slots hn
  inOrder := pairwise_slots hn

/-- Answers for all sequences take their places, and nothing else is changed. -/
theorem exchanged_refill (hn : n.isOrdered = true) {applied : List Application}
    (happlied : applied.map Application.place = n.slots) :
    n.Exchanged applied (n.refill (applied.map Application.answer)) := by
  have hslots : (applied.map fun a => (a.slot, a.answer)).Pairwise fun a b => a.1 ≠ b.1 := by
    have hordered := pairwise_slots hn
    rw [← happlied, List.pairwise_map] at hordered
    rw [List.pairwise_map]
    exact hordered.imp fun hbefore => hbefore.ne
  let answerIn (slot : Slot) : Forest :=
    ((applied.map fun a => (a.slot, a.answer)).lookup slot).getD []
  have hanswer : ∀ a ∈ applied, answerIn a.slot = a.answer := by
    intro a ha
    have hlookup := lookup_of_mem hslots (List.mem_map_of_mem ha)
    simp only [answerIn, hlookup, Option.getD_some]
  have hrefill : n.refill (applied.map Application.answer) =
      n.mapSlots fun slot _ => answerIn slot := by
    rw [← refill_slots, ← happlied, List.map_map]
    exact congrArg n.refill (List.map_congr_left fun a ha => (hanswer a ha).symm)
  rw [hrefill]
  refine ⟨mapSlots_mapSlots n _ _, fun a ha => ?_⟩
  have howned : n.sequence? a.slot = some a.given := by
    rw [← mem_slots hn, ← happlied]
    exact List.mem_map_of_mem ha
  rw [sequence?_mapSlots, howned, Option.map_some, hanswer a ha]

/-! ## The whole -/

/-- Passing sequences on as a function without effects makes them is done at once. -/
theorem mapChildren_pure {m : Type → Type} [Monad m] [LawfulMonad m] (f : Forest → Forest)
    (n : Node) :
    (n.mapChildren fun s => (pure (f s) : m Forest)) = pure (n.mapSlots fun _ => f) := by
  have hanswers : n.sequences.map f = n.slots.map fun entry => f entry.2 := by
    rw [← n.map_snd_slots, List.map_map]
    rfl
  rw [mapChildren, List.mapM_pure, pure_bind, hanswers, refill_slots n fun _ => f]

theorem traversed_mapChildren (hn : n.isOrdered = true) (f : Worker ε σ) (before : σ) :
    n.Traversed f before ((n.mapChildren f).run.run before) := by
  rw [mapChildren, run_bind, ← n.map_snd_slots]
  rcases mapM_worker f n.slots before with ⟨applied, after, hslots, happlied, hrun⟩ |
      ⟨applied, slot, s, later, between, reason, after, hslots, happlied, hfail, hrun⟩
  · rw [hrun]
    exact .whole (hslots ▸ owns_slots hn) happlied (exchanged_refill hn hslots)
  · rw [hrun]
    exact .stopped (hslots ▸ owns_slots hn) happlied hfail

/-- A function that keeps a state and may fail is applied to the sequences that a node owns, to
    each once and in order, and to nothing else. If it never fails, its answers take their places
    and all else in the node stays; else the traversal fails as the function does, which is not
    applied again. Without effects, two functions one after the other are their composition, and
    a function that changes nothing changes nothing in the node. -/
theorem mapChildren_exact (n : Node) (hn : n.isOrdered = true) :
    (∀ {ε σ : Type} (f : Worker ε σ) (before : σ),
      n.Traversed f before ((n.mapChildren f).run.run before)) ∧
    ∀ {m : Type → Type} [Monad m] [LawfulMonad m],
      (∀ f g : Forest → Forest, ((n.mapChildren fun s => (pure (g s) : m Forest)) >>=
          mapChildren fun s => pure (f s)) = n.mapChildren fun s => pure (f (g s))) ∧
        n.mapChildren (m := m) pure = pure n := by
  refine ⟨fun f before => traversed_mapChildren hn f before, fun {m} _ _ => ⟨fun f g => ?_, ?_⟩⟩
  · rw [mapChildren_pure, pure_bind, mapChildren_pure, mapChildren_pure, mapSlots_mapSlots]
  · exact (mapChildren_pure id n).trans (congrArg pure n.mapSlots_id)

/-- A macro with parsed content at several depths, and texts beside it. -/
def nestedParams : Node :=
  .template "m" [("1", .content [.text "a"]), ("2", .text "b"),
    ("3", .list [.text "c", .list [.content [.text "d"], .content []]]), ("4", .content [])]

theorem mapChildren_exact_nestedParams :
    let third : Worker String Nat := fun s => do
      let visits ← get
      if visits = 2 then throw "third"
      set (visits + 1)
      return s.reverse
    let run := (nestedParams.mapChildren third).run.run 0
    nestedParams.isOrdered = true ∧ nestedParams.Traversed third 0 run ∧
      run = (.error "third", 2) := by
  intro third run
  have hordered : nestedParams.isOrdered = true := by decide
  exact ⟨hordered, (mapChildren_exact nestedParams hordered).1 third 0, rfl⟩

end Node

end ArticleTree
