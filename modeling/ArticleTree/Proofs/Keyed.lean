import ArticleTree.Keyed
import Mathlib.Data.List.Sort

/-! # Looking up, inserting, erasing and sorting by key -/

namespace ArticleTree

namespace Keyed

variable {α : Type} {entries : List (String × α)} {key : String} {value : α}

theorem mem_of_get? (h : get? key entries = some value) : (key, value) ∈ entries := by
  induction entries with
  | nil => cases h
  | cons head rest ih =>
      obtain ⟨k, v⟩ := head
      simp only [get?] at h
      split at h
      · rename_i heq
        cases h
        exact heq ▸ List.mem_cons_self
      · exact List.mem_cons_of_mem _ (ih h)

theorem mem_of_mem_erase {entry : String × α} (h : entry ∈ erase key entries) :
    entry ∈ entries := by
  induction entries with
  | nil => cases h
  | cons head rest ih =>
      obtain ⟨k, v⟩ := head
      simp only [erase] at h
      split at h
      · exact List.mem_cons_of_mem _ (ih h)
      · rcases List.mem_cons.1 h with rfl | h
        · exact List.mem_cons_self
        · exact List.mem_cons_of_mem _ (ih h)

theorem get?_insert (key other : String) (value : α) (entries : List (String × α)) :
    get? other (insert key value entries) =
      if key = other then some value else get? other entries := by
  induction entries with
  | nil => simp [insert, get?]
  | cons head rest ih =>
      obtain ⟨k, v⟩ := head
      simp only [insert]
      split
      · simp only [get?]
      · split
        · rename_i heq
          subst heq
          simp only [get?]
          split <;> rfl
        · rename_i hne
          simp only [get?, ih]
          by_cases hk : k = other
          · subst hk
            simp [hne]
          · simp [hk]

theorem get?_erase (key other : String) (entries : List (String × α)) :
    get? other (erase key entries) = if key = other then none else get? other entries := by
  induction entries with
  | nil => simp [erase, get?]
  | cons head rest ih =>
      obtain ⟨k, v⟩ := head
      simp only [erase]
      split
      · rename_i heq
        subst heq
        rw [ih, get?]
        split <;> rfl
      · rename_i hne
        simp only [get?, ih]
        by_cases hk : k = other
        · subst hk
          simp [Ne.symm hne]
        · simp [hk]

theorem length_erase_le (key : String) (entries : List (String × α)) :
    (erase key entries).length ≤ entries.length := by
  induction entries with
  | nil => exact Nat.le_refl _
  | cons head rest ih =>
      obtain ⟨k, v⟩ := head
      simp only [erase]
      split
      · exact Nat.le_succ_of_le ih
      · exact Nat.succ_le_succ ih

/-- A key that is there takes an entry with it. -/
theorem length_erase_lt (h : get? key entries = some value) :
    (erase key entries).length < entries.length := by
  induction entries with
  | nil => cases h
  | cons head rest ih =>
      obtain ⟨k, v⟩ := head
      simp only [get?] at h
      simp only [erase]
      split at h
      · rename_i heq
        rw [if_pos heq]
        exact Nat.lt_succ_of_le (length_erase_le key rest)
      · rename_i hne
        rw [if_neg hne]
        exact Nat.succ_lt_succ (ih h)

/-- A key that is new adds an entry, and one that is there does not. -/
theorem length_insert (h : Ascending entries) (key : String) (value : α) :
    (insert key value entries).length =
      if (get? key entries).isSome then entries.length else entries.length + 1 := by
  induction entries with
  | nil => simp [insert, get?]
  | cons head rest ih =>
      obtain ⟨k, v⟩ := head
      obtain ⟨hhead, hrest⟩ := List.pairwise_cons.1 h
      simp only [insert]
      split
      · rename_i hlt
        have habsent : get? key ((k, v) :: rest) = none := by
          cases hget : get? key ((k, v) :: rest) with
          | none => rfl
          | some value' =>
              rcases List.mem_cons.1 (mem_of_get? hget) with heq | hmem
              · cases heq
                exact absurd hlt (String.lt_irrefl key)
              · exact absurd (String.lt_trans hlt (hhead _ hmem)) (String.lt_irrefl key)
        simp [habsent]
      · split
        · rename_i heq
          simp [heq, get?]
        · rename_i hne
          have hget : get? key ((k, v) :: rest) = get? key rest := by
            simp [get?, Ne.symm hne]
          rw [List.length_cons, ih hrest, hget, List.length_cons]
          split <;> rfl

/-! ## Sorting -/

theorem ascending_nil : Ascending ([] : List (String × α)) :=
  List.Pairwise.nil

/-- An order of the keys is the only one. -/
theorem Ascending.eq_of_perm {others : List (String × α)} (h : Ascending entries)
    (hothers : Ascending others) (hperm : entries.Perm others) : entries = others :=
  List.Perm.eq_of_pairwise
    (fun a _ _ _ hab hba => absurd (String.lt_trans hab hba) (String.lt_irrefl a.1)) h hothers hperm

/-- Two mappings with the same entries are the same. -/
theorem Ascending.eq_of_subset {others : List (String × α)} (h : Ascending entries)
    (hothers : Ascending others) (hsub : entries ⊆ others) (hsub' : others ⊆ entries) :
    entries = others := by
  have hnodup {given : List (String × α)} (hgiven : Ascending given) : given.Nodup :=
    hgiven.imp fun hlt heq => absurd (congrArg Prod.fst heq) (String.ne_of_lt hlt)
  apply h.eq_of_perm hothers
  rw [List.perm_ext_iff_of_nodup (hnodup h) (hnodup hothers)]
  exact fun entry => ⟨@hsub entry, @hsub' entry⟩

theorem insert_perm (h : key ∉ entries.map Prod.fst) (value : α) :
    (insert key value entries).Perm ((key, value) :: entries) := by
  induction entries with
  | nil => exact .refl _
  | cons head rest ih =>
      obtain ⟨k, v⟩ := head
      rw [List.map_cons, List.mem_cons, not_or] at h
      simp only [insert, if_neg h.1]
      split
      · exact .refl _
      · exact ((ih h.2).cons _).trans (.swap _ _ _)

/-- What is put into the order one after the other. -/
private def insertAll (sorted entries : List (String × α)) : List (String × α) :=
  entries.foldl (fun sorted (key, value) => insert key value sorted) sorted

private theorem ascending_insertAll {sorted : List (String × α)} (h : Ascending sorted) :
    Ascending (insertAll sorted entries) := by
  induction entries generalizing sorted with
  | nil => exact h
  | cons head rest ih => exact ih (h.insert _ _)

private theorem insertAll_perm {sorted : List (String × α)}
    (h : ((sorted ++ entries).map Prod.fst).Nodup) :
    (insertAll sorted entries).Perm (sorted ++ entries) := by
  induction entries generalizing sorted with
  | nil => simp [insertAll]
  | cons head rest ih =>
      obtain ⟨k, v⟩ := head
      have hnew : k ∉ sorted.map Prod.fst := by
        rw [List.map_append, List.map_cons] at h
        exact fun hmem => (List.nodup_append.1 h).2.2 k hmem k List.mem_cons_self rfl
      have hinsert := insert_perm hnew v
      have hstep : (insert k v sorted ++ rest).Perm (sorted ++ (k, v) :: rest) :=
        (hinsert.append_right rest).trans List.perm_middle.symm
      exact (ih ((hstep.map _).nodup_iff.2 h)).trans hstep

private theorem mem_of_mem_insertAll {sorted : List (String × α)} {entry : String × α}
    (h : entry ∈ insertAll sorted entries) : entry ∈ sorted ∨ entry ∈ entries := by
  induction entries generalizing sorted with
  | nil => exact .inl h
  | cons head rest ih =>
      rcases ih h with h | h
      · rcases mem_insert h with rfl | h
        · exact .inr List.mem_cons_self
        · exact .inl h
      · exact .inr (List.mem_cons_of_mem _ h)

theorem mem_of_mem_ofList {entry : String × α} (h : entry ∈ ofList entries) : entry ∈ entries :=
  (mem_of_mem_insertAll h).resolve_left List.not_mem_nil

theorem ascending_ofList (entries : List (String × α)) : Ascending (ofList entries) :=
  ascending_insertAll ascending_nil

/-- What is looked up is what stands there. -/
theorem Ascending.get?_eq_some (h : Ascending entries) :
    get? key entries = some value ↔ (key, value) ∈ entries := by
  refine ⟨mem_of_get?, fun hmem => ?_⟩
  induction entries with
  | nil => cases hmem
  | cons head rest ih =>
      obtain ⟨k, v⟩ := head
      obtain ⟨hhead, hrest⟩ := List.pairwise_cons.1 h
      rw [get?]
      rcases List.mem_cons.1 hmem with heq | hmem
      · cases heq
        exact if_pos rfl
      · rw [if_neg (String.ne_of_lt (hhead _ hmem))]
        exact ih hrest hmem

/-- A key stands there once, if at all. -/
theorem Ascending.filter_eq (h : Ascending entries) (key : String) :
    (entries.filter fun entry => entry.1 = key) =
      (get? key entries).toList.map fun value => (key, value) := by
  induction entries with
  | nil => rfl
  | cons head rest ih =>
      obtain ⟨k, v⟩ := head
      obtain ⟨hhead, hrest⟩ := List.pairwise_cons.1 h
      by_cases hk : k = key
      · subst hk
        have hnone : (rest.filter fun entry => entry.1 = k) = [] := by
          rw [List.filter_eq_nil_iff]
          intro entry hentry
          simpa using Ne.symm (String.ne_of_lt (hhead entry hentry))
        simp [get?, hnone]
      · simp [get?, hk, ih hrest]

private theorem get?_insertAll (sorted entries : List (String × α)) :
    get? key (insertAll sorted entries) = (entries.reverse.lookup key).or (get? key sorted) := by
  induction entries generalizing sorted with
  | nil => rfl
  | cons head rest ih =>
      obtain ⟨k, v⟩ := head
      rw [List.reverse_cons, List.lookup_append, Option.or_assoc]
      refine (ih (insert k v sorted)).trans (congrArg _ ?_)
      rw [get?_insert, List.lookup_cons]
      by_cases hk : k = key
      · simp [hk]
      · simp [hk, beq_eq_false_iff_ne.2 (Ne.symm hk)]

/-- Of one key's values the last counts. -/
theorem get?_ofList (key : String) (entries : List (String × α)) :
    get? key (ofList entries) = entries.reverse.lookup key :=
  (get?_insertAll [] entries).trans (Option.or_none)

/-- Where each key stands once, no entry is lost. -/
theorem ofList_perm (h : (entries.map Prod.fst).Nodup) : (ofList entries).Perm entries :=
  insertAll_perm h

/-- Entries that stand in another order are put back into theirs. -/
theorem Ascending.ofList_eq (h : Ascending entries) {given : List (String × α)}
    (hperm : given.Perm entries) : ofList given = entries := by
  have hkeys : (entries.map Prod.fst).Nodup :=
    List.pairwise_map.2 (h.imp String.ne_of_lt)
  have hgiven : (ofList given).Perm given := ofList_perm ((hperm.map _).nodup_iff.2 hkeys)
  exact (ascending_ofList given).eq_of_perm h (hgiven.trans hperm)

end Keyed

namespace Attributes

theorem eq_of_entries {attrs others : Attributes} (h : attrs.entries = others.entries) :
    attrs = others := by
  cases attrs
  cases h
  rfl

theorem entries_ofList (entries : List (String × String)) :
    (ofList entries).entries = Keyed.ofList entries := by
  have hinsert : ∀ attrs : Attributes,
      (entries.foldl (fun attrs entry => attrs.insert entry.1 entry.2) attrs).entries =
        Keyed.insertAll attrs.entries entries := by
    induction entries with
    | nil => exact fun _ => rfl
    | cons entry entries ih => exact fun attrs => ih (attrs.insert entry.1 entry.2)
  exact hinsert ∅

theorem ofList_eq {attrs : Attributes} {given : List (String × String)}
    (h : given.Perm attrs.entries) : ofList given = attrs := by
  apply eq_of_entries
  rw [entries_ofList]
  exact attrs.ascending.ofList_eq h

end Attributes

end ArticleTree
