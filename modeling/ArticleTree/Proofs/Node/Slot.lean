import ArticleTree.Proofs.Keyed
import ArticleTree.Proofs.Node.Live
import ArticleTree.Proofs.Node.Ordered
import ArticleTree.Proofs.Text.ByteOrder

/-! # Slots in a node

A slot says which of a node's sequences is meant: the children or the caption, an item of a list,
or a parsed parameter of a macro. The slots of a node are in order, and the sequences in them, one
after the other, are all that the node owns.
-/

namespace ArticleTree

/-- A slot for a sequence of nodes in a node. -/
inductive Slot where
  /-- The children, or the caption. -/
  | children
  /-- An item of a list. -/
  | item (index : Nat)
  /-- A parameter of a macro; the path leads through merged values. -/
  | param (key : String) (path : List Nat)
  deriving DecidableEq, Repr

/-- The order of slots in one node: items by their numbers, and parameters by the bytes of their
    keys. -/
def Slot.Before : Slot → Slot → Prop
  | item i, item j => i < j
  | param key path, param key' path' =>
      Text.bytes key < Text.bytes key' ∨ key = key' ∧ path < path'
  | _, _ => False

theorem Slot.Before.asymm {a b : Slot} (h : a.Before b) : ¬ b.Before a := by
  cases a with
  | children => exact h.elim
  | item i =>
      cases b with
      | item j => exact Nat.lt_asymm h
      | _ => exact id
  | param key path =>
      cases b with
      | param key' path' =>
          rintro (hkey | ⟨rfl, hpath⟩)
          · rcases h with h | ⟨rfl, -⟩
            · exact List.lt_asymm h hkey
            · exact List.lt_irrefl _ hkey
          · rcases h with h | ⟨-, h⟩
            · exact List.lt_irrefl _ h
            · exact List.lt_asymm h hpath
      | _ => exact id

theorem Slot.Before.ne {a b : Slot} (h : a.Before b) : a ≠ b := by
  rintro rfl
  exact h.asymm h

namespace Param

/-- The parsed sequence at a path. -/
def at? : List Nat → Param → Option Forest
  | [], content nodes => some nodes
  | i :: path, list items => items[i]?.bind (at? path)
  | _, _ => none

mutual

/-- The parsed sequences in a parameter with their paths, in order. -/
def slots : Param → List (List Nat × Forest)
  | content nodes => [([], nodes)]
  | list items => slotsFrom 0 items
  | text _ => []

/-- Those in several parameters, which are numbered on from `i`. -/
def slotsFrom (i : Nat) : List Param → List (List Nat × Forest)
  | [] => []
  | item :: items => item.slots.map (fun entry => (i :: entry.1, entry.2)) ++
      slotsFrom (i + 1) items

end

mutual

/-- The parameter with something done to each of its sequences. -/
def mapSlots (f : List Nat → Forest → Forest) : Param → Param
  | content nodes => content (f [] nodes)
  | list items => list (mapSlotsFrom f 0 items)
  | text data => text data

def mapSlotsFrom (f : List Nat → Forest → Forest) (i : Nat) : List Param → List Param
  | [] => []
  | item :: items => item.mapSlots (fun path => f (i :: path)) :: mapSlotsFrom f (i + 1) items

end

end Param

namespace Node

/-- The sequence in a slot. -/
def sequence? : Slot → Node → Option Forest
  | .children, element _ _ children => some children
  | .children, block _ children => some children
  | .children, header _ _ children => some children
  | .children, image _ _ _ caption => some caption
  | .children, gallery _ _ children => some children
  | .children, galleryItem _ caption => some caption
  | .item i, list _ items => items[i]?
  | .param key path, template _ params => (Keyed.get? key params).bind (Param.at? path)
  | _, _ => none

/-- The sequences that a node owns with their slots, in order. -/
def slots : Node → List (Slot × Forest)
  | element _ _ children => [(.children, children)]
  | block _ children => [(.children, children)]
  | header _ _ children => [(.children, children)]
  | image _ _ _ caption => [(.children, caption)]
  | gallery _ _ children => [(.children, children)]
  | galleryItem _ caption => [(.children, caption)]
  | list _ items => items.zipIdx.map fun entry => (.item entry.2, entry.1)
  | template _ params => params.flatMap fun param =>
      param.2.slots.map fun entry => (.param param.1 entry.1, entry.2)
  | text _ | equation _ | inlineMath _ | error _ | notImplemented _ => []

/-- The node with something done to each of its sequences. -/
def mapSlots (f : Slot → Forest → Forest) : Node → Node
  | element name attrs children => element name attrs (f .children children)
  | block b children => block b (f .children children)
  | header depth anchor children => header depth anchor (f .children children)
  | image name url thumbnail caption => image name url thumbnail (f .children caption)
  | gallery widths heights children => gallery widths heights (f .children children)
  | galleryItem name caption => galleryItem name (f .children caption)
  | list ordered items => list ordered (items.mapIdx fun i => f (.item i))
  | template name params =>
      template name (params.map fun (key, value) =>
        (key, value.mapSlots fun path => f (.param key path)))
  | leaf => leaf

/-- The node with something done to the sequence in one slot, and nothing else. -/
def modify (f : Forest → Forest) (slot : Slot) (n : Node) : Node :=
  n.mapSlots fun other => if other = slot then f else id

end Node

/-! ## Order in what a node owns -/

mutual

theorem Param.allOrdered_of_mem_sequences (value : Param) (h : value.isOrdered = true)
    {s : Forest} (hs : s ∈ value.sequences) : Node.allOrdered s = true := by
  cases value with
  | content nodes => rwa [List.mem_singleton.1 hs]
  | list items => exact Param.allOrdered_of_mem_sequencesAll items h hs
  | text data => cases hs

theorem Param.allOrdered_of_mem_sequencesAll (items : List Param)
    (h : Param.allOrdered items = true) {s : Forest} (hs : s ∈ Param.sequencesAll items) :
    Node.allOrdered s = true := by
  cases items with
  | nil => cases hs
  | cons item items =>
      simp only [Param.allOrdered, Bool.and_eq_true] at h
      rcases List.mem_append.1 hs with hs | hs
      · exact Param.allOrdered_of_mem_sequences item h.1 hs
      · exact Param.allOrdered_of_mem_sequencesAll items h.2 hs

end

/-- Macros are in order in what an ordered node owns. -/
theorem Node.allOrdered_of_mem_sequences {n : Node} (hn : n.isOrdered = true) {s : Forest}
    (hs : s ∈ n.sequences) : allOrdered s = true := by
  cases n with
  | list ordered items => exact itemsOrdered_iff.1 hn s hs
  | template name params =>
      simp only [isOrdered, Bool.and_eq_true] at hn
      obtain ⟨key, value, hvalue, hs⟩ := Param.mem_sequencesByKey.1 hs
      exact value.allOrdered_of_mem_sequences (Param.orderedByKey_iff.1 hn.2 _ hvalue) hs
  | text | equation | inlineMath | error | notImplemented => cases hs
  | _ => rwa [List.mem_singleton.1 hs]

/-! ## The slots of a node -/

namespace Param

mutual

theorem mem_slots (value : Param) {path : List Nat} {s : Forest} :
    (path, s) ∈ value.slots ↔ value.at? path = some s := by
  cases value with
  | content nodes => cases path <;> simp [slots, at?, eq_comm]
  | list items =>
      rw [slots, mem_slotsFrom items]
      cases path with
      | nil => simp [at?]
      | cons i path => simp [at?]
  | text data => cases path <;> simp [slots, at?]

theorem mem_slotsFrom (items : List Param) {i : Nat} {path : List Nat} {s : Forest} :
    (path, s) ∈ slotsFrom i items ↔
      ∃ j rest, path = (i + j) :: rest ∧ items[j]?.bind (at? rest) = some s := by
  cases items with
  | nil => simp [slotsFrom]
  | cons item items =>
      simp only [slotsFrom, List.mem_append, List.mem_map, mem_slotsFrom items, Prod.mk.injEq]
      constructor
      · rintro (⟨⟨rest, s'⟩, hmem, rfl, rfl⟩ | ⟨j, rest, rfl, h⟩)
        · exact ⟨0, rest, rfl, (mem_slots item).1 hmem⟩
        · exact ⟨j + 1, rest, by rw [Nat.add_assoc, Nat.add_comm 1 j], h⟩
      · rintro ⟨j, rest, rfl, h⟩
        cases j with
        | zero => exact .inl ⟨(rest, s), (mem_slots item).2 h, rfl, rfl⟩
        | succ j => exact .inr ⟨j, rest, by rw [Nat.add_assoc, Nat.add_comm 1 j], h⟩

end

mutual

theorem pairwise_slots (value : Param) : value.slots.Pairwise fun a b => a.1 < b.1 := by
  cases value with
  | content nodes => exact List.pairwise_singleton _ _
  | list items => exact pairwise_slotsFrom items 0
  | text data => exact .nil

theorem pairwise_slotsFrom (items : List Param) (i : Nat) :
    (slotsFrom i items).Pairwise fun a b => a.1 < b.1 := by
  cases items with
  | nil => exact .nil
  | cons item items =>
      rw [slotsFrom, List.pairwise_append, List.pairwise_map]
      refine ⟨(pairwise_slots item).imp ?_, pairwise_slotsFrom items (i + 1), ?_⟩
      · intro a b h
        exact List.cons_lt_cons_iff.2 (.inr ⟨rfl, h⟩)
      · intro a ha b hb
        obtain ⟨entry, -, rfl⟩ := List.mem_map.1 ha
        obtain ⟨j, rest, hpath, -⟩ := (mem_slotsFrom items).1 hb
        rw [hpath]
        exact List.cons_lt_cons_iff.2 (.inl (by omega))

end

mutual

theorem refill_slots_append (value : Param) (f : List Nat → Forest → Forest)
    (rest : List Forest) :
    value.refill (value.slots.map (fun entry => f entry.1 entry.2) ++ rest) =
      (value.mapSlots f, rest) := by
  cases value with
  | content nodes => rfl
  | list items =>
      simp only [refill, slots, mapSlots, refillAll_slotsFrom_append items]
  | text data => rfl

theorem refillAll_slotsFrom_append (items : List Param) (i : Nat)
    (f : List Nat → Forest → Forest) (rest : List Forest) :
    refillAll items ((slotsFrom i items).map (fun entry => f entry.1 entry.2) ++ rest) =
      (mapSlotsFrom f i items, rest) := by
  cases items with
  | nil => rfl
  | cons item items =>
      have hfirst := refill_slots_append item (fun path => f (i :: path))
      simp only [refillAll, slotsFrom, mapSlotsFrom, List.map_append, List.map_map,
        List.append_assoc, Function.comp_def, hfirst, refillAll_slotsFrom_append items]

end

theorem refillByKey_slots (params : List (String × Param)) (f : Slot → Forest → Forest) :
    refillByKey params ((params.flatMap fun param =>
        param.2.slots.map fun entry => (Slot.param param.1 entry.1, entry.2)).map
          fun entry => f entry.1 entry.2) =
      params.map fun param => (param.1, param.2.mapSlots fun path => f (.param param.1 path)) := by
  induction params with
  | nil => rfl
  | cons param params ih =>
      have hfirst := refill_slots_append param.2 (fun path => f (.param param.1 path))
      simp only [List.flatMap_cons, List.map_append, List.map_map, Function.comp_def] at ih ⊢
      simp only [refillByKey, hfirst, ih, List.map_cons]

mutual

theorem map_snd_slots (value : Param) : value.slots.map Prod.snd = value.sequences := by
  cases value with
  | content nodes => rfl
  | list items => exact map_snd_slotsFrom items 0
  | text data => rfl

theorem map_snd_slotsFrom (items : List Param) (i : Nat) :
    (slotsFrom i items).map Prod.snd = sequencesAll items := by
  cases items with
  | nil => rfl
  | cons item items =>
      have hfirst := map_snd_slots item
      simp only [slotsFrom, sequencesAll, List.map_append, List.map_map,
        map_snd_slotsFrom items] at hfirst ⊢
      rw [← hfirst]
      rfl

end

mutual

theorem mapSlots_mapSlots (value : Param) (f g : List Nat → Forest → Forest) :
    (value.mapSlots g).mapSlots f = value.mapSlots fun path s => f path (g path s) := by
  cases value with
  | content nodes => rfl
  | list items => simp only [mapSlots, mapSlotsFrom_mapSlotsFrom items]
  | text data => rfl

theorem mapSlotsFrom_mapSlotsFrom (items : List Param) (i : Nat)
    (f g : List Nat → Forest → Forest) :
    mapSlotsFrom f i (mapSlotsFrom g i items) =
      mapSlotsFrom (fun path s => f path (g path s)) i items := by
  cases items with
  | nil => rfl
  | cons item items =>
      simp only [mapSlotsFrom, mapSlots_mapSlots item, mapSlotsFrom_mapSlotsFrom items]

end

end Param

namespace Node

variable {n : Node} {f g : Slot → Forest → Forest}

theorem mem_slots (hn : n.isOrdered = true) {slot : Slot} {s : Forest} :
    (slot, s) ∈ n.slots ↔ n.sequence? slot = some s := by
  cases n with
  | list ordered items =>
      cases slot <;> simp [slots, sequence?, List.mem_zipIdx_iff_getElem?]
  | template name params =>
      have hascending : Keyed.Ascending params := by
        simp only [isOrdered, Bool.and_eq_true, decide_eq_true_eq] at hn
        exact hn.1
      cases slot with
      | param key path =>
          simp only [slots, sequence?, List.mem_flatMap, List.mem_map, Prod.mk.injEq,
            Slot.param.injEq, Option.bind_eq_some_iff, hascending.get?_eq_some]
          constructor
          · rintro ⟨⟨_, value⟩, hvalue, ⟨_, _⟩, hentry, ⟨rfl, rfl⟩, rfl⟩
            exact ⟨value, hvalue, value.mem_slots.1 hentry⟩
          · rintro ⟨value, hvalue, hs⟩
            exact ⟨(key, value), hvalue, (path, s), value.mem_slots.2 hs, ⟨rfl, rfl⟩, rfl⟩
      | children => simp [slots, sequence?]
      | item i => simp [slots, sequence?]
  | _ => cases slot <;> simp [slots, sequence?, eq_comm]

theorem pairwise_slots (hn : n.isOrdered = true) :
    n.slots.Pairwise fun a b => a.1.Before b.1 := by
  cases n with
  | list ordered items =>
      rw [slots, List.pairwise_map, List.pairwise_iff_getElem]
      intro i j hi hj hij
      simpa [Slot.Before] using hij
  | template name params =>
      simp only [isOrdered, Bool.and_eq_true, decide_eq_true_eq] at hn
      rw [slots, List.pairwise_flatMap]
      constructor
      · intro param _
        rw [List.pairwise_map]
        exact param.2.pairwise_slots.imp fun h => .inr ⟨rfl, h⟩
      · refine hn.1.imp fun h => ?_
        intro a ha b hb
        obtain ⟨_, -, rfl⟩ := List.mem_map.1 ha
        obtain ⟨_, -, rfl⟩ := List.mem_map.1 hb
        exact .inl (Text.bytes_lt_iff.2 h)
  | text | equation | inlineMath | error | notImplemented => exact .nil
  | _ => exact List.pairwise_singleton _ _

theorem map_snd_slots (n : Node) : n.slots.map Prod.snd = n.sequences := by
  cases n with
  | list ordered items =>
      simp only [slots, List.map_map]
      exact List.zipIdx_map_fst 0 items
  | template name params =>
      simp only [slots, sequences]
      induction params with
      | nil => rfl
      | cons param params ih =>
          have hfirst := param.2.map_snd_slots
          rw [List.flatMap_cons, List.map_append, ih, List.map_map, Param.sequencesByKey, ← hfirst]
          rfl
  | _ => rfl

theorem mem_sequences_of_mem_slots {entry : Slot × Forest} (h : entry ∈ n.slots) :
    entry.2 ∈ n.sequences := by
  rw [← n.map_snd_slots]
  exact List.mem_map_of_mem h

/-- Something done in each slot is something done to each sequence. -/
theorem refill_slots (n : Node) (f : Slot → Forest → Forest) :
    n.refill (n.slots.map fun entry => f entry.1 entry.2) = n.mapSlots f := by
  cases n with
  | list ordered items =>
      simp only [slots, mapSlots, refill, List.map_map, List.mapIdx_eq_zipIdx_map]
      rfl
  | template name params => exact congrArg (template name) (Param.refillByKey_slots params f)
  | _ => rfl

theorem mapSlots_id (n : Node) : (n.mapSlots fun _ => id) = n := by
  have hsame : n.slots.map (fun entry => id entry.2) = n.sequences := n.map_snd_slots
  rw [← refill_slots, hsame, refill_sequences]

theorem mapSlots_mapSlots (n : Node) (f g : Slot → Forest → Forest) :
    (n.mapSlots g).mapSlots f = n.mapSlots fun slot s => f slot (g slot s) := by
  cases n with
  | list ordered items => simp [mapSlots, List.mapIdx_mapIdx, Function.comp_def]
  | template name params =>
      simp only [mapSlots, List.map_map, Function.comp_def, Param.mapSlots_mapSlots]
  | _ => rfl

@[simp] theorem modify_id (n : Node) (slot : Slot) : n.modify id slot = n := by
  simp only [modify, ite_self]
  exact n.mapSlots_id

theorem modify_modify (n : Node) (f g : Forest → Forest) (slot : Slot) :
    (n.modify g slot).modify f slot = n.modify (fun s => f (g s)) slot := by
  rw [modify, modify, mapSlots_mapSlots, modify]
  congr 1
  funext other s
  split <;> rfl

/-- What is done in several slots, each given once, is done at all of them at once. -/
theorem foldr_modify (n : Node) {changes : List (Slot × (Forest → Forest))}
    (h : changes.Pairwise fun a b => a.1 ≠ b.1) :
    changes.foldr (fun change m => m.modify change.2 change.1) n =
      n.mapSlots fun slot => (changes.lookup slot).getD id := by
  induction changes with
  | nil => exact n.mapSlots_id.symm
  | cons change changes ih =>
      obtain ⟨first, f⟩ := change
      obtain ⟨hfirst, hothers⟩ := List.pairwise_cons.1 h
      rw [List.foldr_cons, ih hothers, modify, mapSlots_mapSlots]
      congr 1
      funext slot s
      rw [List.lookup_cons]
      by_cases hslot : slot = first
      · subst hslot
        have hnone : changes.lookup slot = none := by
          rw [List.lookup_eq_none_iff]
          intro other hother
          simpa using hfirst other hother
        simp [hnone]
      · simp [hslot, beq_eq_false_iff_ne.2 hslot]

theorem lookup_of_mem {β : Type} {changes : List (Slot × β)}
    (h : changes.Pairwise fun a b => a.1 ≠ b.1) {slot : Slot} {change : β}
    (hmem : (slot, change) ∈ changes) : changes.lookup slot = some change := by
  induction changes with
  | nil => cases hmem
  | cons other changes ih =>
      obtain ⟨hfirst, hothers⟩ := List.pairwise_cons.1 h
      rcases List.mem_cons.1 hmem with rfl | hmem
      · exact List.lookup_cons_self
      · rw [List.lookup_cons, beq_eq_false_iff_ne.2 (hfirst _ hmem).symm]
        exact ih hothers hmem

/-- What is done in each of the slots of a node is done to each of its sequences. -/
theorem foldr_modify_slots (hn : n.isOrdered = true)
    {changes : List (Slot × Forest × (Forest → Forest))}
    (h : changes.map (fun change => (change.1, change.2.1)) = n.slots) :
    changes.foldr (fun change m => m.modify change.2.2 change.1) n =
      n.refill (changes.map fun change => change.2.2 change.2.1) := by
  have hpairwise : (changes.map fun change => (change.1, change.2.2)).Pairwise
      fun a b => a.1 ≠ b.1 := by
    have hslots := pairwise_slots hn
    rw [← h, List.pairwise_map] at hslots
    rw [List.pairwise_map]
    exact hslots.imp fun hbefore => hbefore.ne
  have hdone := n.foldr_modify hpairwise
  rw [List.foldr_map] at hdone
  rw [hdone, ← refill_slots, ← h, List.map_map]
  congr 1
  apply List.map_congr_left
  intro change hchange
  have hlookup := lookup_of_mem hpairwise (List.mem_map_of_mem hchange)
  simp [hlookup]

end Node

end ArticleTree
