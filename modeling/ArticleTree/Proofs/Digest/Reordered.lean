import ArticleTree.Digest.Stable
import ArticleTree.Proofs.Keyed
import Mathlib.Data.List.Forall2

/-! # Hashes and the order of entries

A mapping may be listed in any order, and so may the mappings inside it. Its hash is always the
same: the entries are sorted as they are hashed, and texts have only one sorted order, even where
some of them are equal.
-/

namespace ArticleTree.Digest

variable {digest : String → String}

/-- In the order in which entries are hashed. -/
def sortedTexts (texts : List String) : List String :=
  texts.mergeSort fun a b => decide (a ≤ b)

theorem pairwise_sortedTexts (texts : List String) : (sortedTexts texts).Pairwise (· ≤ ·) := by
  have hsorted := @List.pairwise_mergeSort String (fun a b => decide (a ≤ b))
    (fun a b c hab hbc => by
      simp only [decide_eq_true_eq] at hab hbc ⊢
      exact String.le_trans hab hbc)
    (fun a b => by simpa using String.le_total a b) texts
  exact hsorted.imp of_decide_eq_true

/-- Texts have one sorted order. -/
theorem sortedTexts_eq_of_perm {xs ys : List String} (h : xs.Perm ys) :
    sortedTexts xs = sortedTexts ys := by
  have hperm : (sortedTexts xs).Perm (sortedTexts ys) :=
    calc
      (sortedTexts xs).Perm xs := List.mergeSort_perm _ _
      List.Perm _ ys := h
      List.Perm _ (sortedTexts ys) := (List.mergeSort_perm _ _).symm
  apply hperm.eq_of_pairwise _ (pairwise_sortedTexts xs) (pairwise_sortedTexts ys)
  intro a b _ _ hab hba
  exact String.le_antisymm hab hba

theorem ofPairs_perm {xs ys : List (String × String)} (h : xs.Perm ys) :
    ofPairs digest xs = ofPairs digest ys := by
  have hpairs := sortedTexts_eq_of_perm (h.map fun hashes => pairText hashes.1 hashes.2)
  exact congrArg (fun pairs => ofSequence digest (pairs.map digest)) hpairs

theorem ofCall_perm (function : String) (args : List String) {xs ys : List (String × String)}
    (h : xs.Perm ys) : ofCall digest function args xs = ofCall digest function args ys := by
  unfold ofCall
  rw [ofPairs_perm (h.map _)]

namespace Hashable

theorem hashAll_eq_map (items : List Hashable) :
    hashAll digest items = items.map (hash digest) := by
  induction items with
  | nil => rfl
  | cons item items ih => rw [hashAll, ih, List.map_cons]

theorem hashEntries_eq_map (entries : List (String × Hashable)) :
    hashEntries digest entries =
      entries.map fun entry => (digest entry.1, entry.2.hash digest) := by
  induction entries with
  | nil => rfl
  | cons entry entries ih => rw [hashEntries, ih, List.map_cons]

theorem hashEntries_eq_zip (entries : List (String × Hashable)) :
    hashEntries digest entries =
      ((entries.map Prod.fst).map digest).zip ((entries.map Prod.snd).map (hash digest)) := by
  rw [hashEntries_eq_map, List.map_map, List.map_map, List.zip_map']
  rfl

/-! ## Other orders -/

/-- The same value, with its mappings listed in other orders at any depth. -/
inductive Reordered : Hashable → Hashable → Prop where
  | text (value : String) : Reordered (.text value) (.text value)
  | sequence {xs ys : List Hashable} :
      List.Forall₂ Reordered xs ys → Reordered (.sequence xs) (.sequence ys)
  /-- The values are reordered inside, and then the entries. -/
  | mapping {xs ys zs : List (String × Hashable)} :
      xs.map Prod.fst = ys.map Prod.fst →
        List.Forall₂ Reordered (xs.map Prod.snd) (ys.map Prod.snd) → ys.Perm zs →
          Reordered (.mapping xs) (.mapping zs)

theorem Reordered.hash_eq {a b : Hashable} (h : a.Reordered b) : a.hash digest = b.hash digest := by
  -- The induction says of values one after the other that their hashes are the same in turn.
  refine @Reordered.rec (fun a b _ => a.hash digest = b.hash digest)
    (fun xs ys _ => xs.map (hash digest) = ys.map (hash digest)) ?_ ?_ ?_ ?_ ?_ a b h
  · intro value
    rfl
  · intro xs ys _ hitems
    simp only [hash, hashAll_eq_map, hitems]
  · intro xs ys zs hkeys _ hperm hvalues
    have hentries : hashEntries digest xs = hashEntries digest ys := by
      rw [hashEntries_eq_zip, hashEntries_eq_zip, hkeys, hvalues]
    simp only [hash, hentries]
    apply ofPairs_perm
    rw [hashEntries_eq_map, hashEntries_eq_map]
    exact hperm.map _
  · rfl
  · intro x y xs ys _ _ hfirst hothers
    rw [List.map_cons, List.map_cons, hfirst, hothers]

/-! ## The order of the keys -/

mutual

/-- No mapping in the value has a key twice. -/
def keyedOnce : Hashable → Bool
  | text _ => true
  | sequence items => keyedOnceAll items
  | mapping entries => decide (entries.map Prod.fst).Nodup && keyedOnceEntries entries

def keyedOnceAll : List Hashable → Bool
  | [] => true
  | item :: items => item.keyedOnce && keyedOnceAll items

def keyedOnceEntries : List (String × Hashable) → Bool
  | [] => true
  | (_, value) :: entries => value.keyedOnce && keyedOnceEntries entries

end

mutual

/-- The value with all mappings in it listed by ascending key. -/
def ordered : Hashable → Hashable
  | text value => text value
  | sequence items => sequence (orderedAll items)
  | mapping entries => mapping (Keyed.ofList (orderedEntries entries))

def orderedAll : List Hashable → List Hashable
  | [] => []
  | item :: items => item.ordered :: orderedAll items

def orderedEntries : List (String × Hashable) → List (String × Hashable)
  | [] => []
  | (key, value) :: entries => (key, value.ordered) :: orderedEntries entries

end

theorem map_fst_orderedEntries (entries : List (String × Hashable)) :
    (orderedEntries entries).map Prod.fst = entries.map Prod.fst := by
  induction entries with
  | nil => rfl
  | cons entry entries ih => rw [orderedEntries, List.map_cons, List.map_cons, ih]

mutual

theorem reordered_ordered (value : Hashable) (h : value.keyedOnce = true) :
    value.Reordered value.ordered := by
  cases value with
  | text value => exact .text value
  | sequence items => exact .sequence (reordered_orderedAll items h)
  | mapping entries =>
      simp only [keyedOnce, Bool.and_eq_true, decide_eq_true_eq] at h
      apply Reordered.mapping (map_fst_orderedEntries entries).symm
        (reordered_orderedEntries entries h.2)
      apply List.Perm.symm
      apply Keyed.ofList_perm
      rw [map_fst_orderedEntries]
      exact h.1

theorem reordered_orderedAll (items : List Hashable) (h : keyedOnceAll items = true) :
    List.Forall₂ Reordered items (orderedAll items) := by
  cases items with
  | nil => exact .nil
  | cons item items =>
      simp only [keyedOnceAll, Bool.and_eq_true] at h
      exact .cons (reordered_ordered item h.1) (reordered_orderedAll items h.2)

theorem reordered_orderedEntries (entries : List (String × Hashable))
    (h : keyedOnceEntries entries = true) :
    List.Forall₂ Reordered (entries.map Prod.snd) ((orderedEntries entries).map Prod.snd) := by
  cases entries with
  | nil => exact .nil
  | cons entry entries =>
      simp only [keyedOnceEntries, Bool.and_eq_true] at h
      exact .cons (reordered_ordered entry.2 h.1) (reordered_orderedEntries entries h.2)

end

/-- The order in which mappings are listed, at any depth, does not matter to the hash of a value,
    so it is the hash of the value with its mappings by ascending key. For keys and values of any
    other kind the order of their hashes does not matter, nor does that of the named arguments for
    the hash of a call. -/
theorem hash_of_reordered (digest : String → String) :
    (∀ a b : Hashable, a.Reordered b → a.hash digest = b.hash digest) ∧
      (∀ a : Hashable, a.keyedOnce = true → a.hash digest = a.ordered.hash digest) ∧
      (∀ hashes others : List (String × String), hashes.Perm others →
        ofPairs digest hashes = ofPairs digest others) ∧
      ∀ (function : String) (args : List String) (named others : List (String × String)),
        named.Perm others →
          ofCall digest function args named = ofCall digest function args others ∧
            ((named.map Prod.fst).Nodup → ofCall digest function args (Keyed.ofList named) =
              ofCall digest function args (Keyed.ofList others)) := by
  refine ⟨fun a b h => h.hash_eq, ?_, fun hashes others h => ofPairs_perm h, ?_⟩
  · intro a h
    exact (reordered_ordered a h).hash_eq
  · intro function args named others h
    refine ⟨ofCall_perm function args h, ?_⟩
    intro hnamed
    have hothers : (others.map Prod.fst).Nodup := (h.map _).nodup_iff.1 hnamed
    apply ofCall_perm
    exact ((Keyed.ofList_perm hnamed).trans h).trans (Keyed.ofList_perm hothers).symm

/-- A sequence with a mapping in it. -/
def more (entries : List (String × Hashable)) : Hashable :=
  .sequence [.text "x", .mapping entries]

/-- A mapping with a mapping inside. -/
def inner : Hashable :=
  .mapping [("text", .text "== Intro =="),
    ("more", more [("title", .text "Folgen"), ("page", .text "1")])]

/-- Both mappings listed the other way round. -/
def innerReversed : Hashable :=
  .mapping [("more", more [("page", .text "1"), ("title", .text "Folgen")]),
    ("text", .text "== Intro ==")]

theorem hash_of_reordered_inner :
    (inner.Reordered innerReversed ∧ inner.hash ofText = innerReversed.hash ofText) ∧
      (inner.keyedOnce = true ∧ inner.hash ofText = inner.ordered.hash ofText) ∧
      ofPairs ofText [("1", "2"), ("3", "4")] = ofPairs ofText [("3", "4"), ("1", "2")] ∧
      ofCall ofText "render_html" [] [("title", "Folgen"), ("text", "x")] =
        ofCall ofText "render_html" [] [("text", "x"), ("title", "Folgen")] := by
  obtain ⟨hreordered, hordered, hpairs, hcalls⟩ := hash_of_reordered ofText
  have hsame : inner.Reordered innerReversed := by
    have hmore : (more [("title", .text "Folgen"), ("page", .text "1")]).Reordered
        (more [("page", .text "1"), ("title", .text "Folgen")]) :=
      .sequence (.cons (.text _) (.cons
        (.mapping rfl (.cons (.text _) (.cons (.text _) .nil)) (.swap _ _ _)) .nil))
    exact @Reordered.mapping _
      [("text", _), ("more", more [("page", .text "1"), ("title", .text "Folgen")])] _ rfl
      (.cons (.text _) (.cons hmore .nil)) (.swap _ _ _)
  exact ⟨⟨hsame, hreordered _ _ hsame⟩, ⟨by decide, hordered _ (by decide)⟩,
    hpairs _ _ (.swap _ _ _), (hcalls "render_html" [] _ _ (.swap _ _ _)).1⟩

end Hashable

end ArticleTree.Digest
