/-! # Values by key

Lists of key and value in ascending order of the keys, each key once. Keys are compared
by their characters' code points, which is also the order of their bytes in UTF-8.
`Attributes` carries the order in its type.
-/

namespace ArticleTree

namespace Keyed

variable {α : Type}

/-- The keys ascend, so each occurs once. -/
def Ascending (entries : List (String × α)) : Prop :=
  entries.Pairwise fun a b => a.1 < b.1

instance (entries : List (String × α)) : Decidable (Ascending entries) := by
  unfold Ascending
  infer_instance

/-- The value of a key. -/
def get? (key : String) : List (String × α) → Option α
  | [] => none
  | (k, v) :: rest => if k = key then some v else get? key rest

/-- Give a key a value, in its place in the order; an earlier value is replaced. -/
def insert (key : String) (value : α) : List (String × α) → List (String × α)
  | [] => [(key, value)]
  | (k, v) :: rest =>
      if key < k then (key, value) :: (k, v) :: rest
      else if key = k then (key, value) :: rest
      else (k, v) :: insert key value rest

/-- Take a key out. -/
def erase (key : String) : List (String × α) → List (String × α)
  | [] => []
  | (k, v) :: rest => if k = key then erase key rest else (k, v) :: erase key rest

/-- Entries in any order; of one key's values the last stays. -/
def ofList (entries : List (String × α)) : List (String × α) :=
  entries.foldl (fun sorted (key, value) => insert key value sorted) []

theorem mem_insert {key : String} {value : α} {entries : List (String × α)}
    {entry : String × α} (h : entry ∈ insert key value entries) :
    entry = (key, value) ∨ entry ∈ entries := by
  induction entries with
  | nil => simpa [insert] using h
  | cons head rest ih =>
      obtain ⟨k, v⟩ := head
      unfold insert at h
      split at h
      · simpa using h
      · split at h
        · rcases List.mem_cons.1 h with h | h
          · exact .inl h
          · exact .inr (List.mem_cons_of_mem _ h)
        · rcases List.mem_cons.1 h with h | h
          · exact .inr (h ▸ List.mem_cons_self)
          · exact (ih h).imp_right (List.mem_cons_of_mem _)

/-- Inserting keeps the keys ascending. -/
theorem Ascending.insert {entries : List (String × α)} (h : Ascending entries)
    (key : String) (value : α) : Ascending (Keyed.insert key value entries) := by
  induction entries with
  | nil => simp [Keyed.insert, Ascending]
  | cons head rest ih =>
      obtain ⟨k, v⟩ := head
      have hrest : Ascending rest := List.Pairwise.of_cons h
      have hhead : ∀ entry ∈ rest, k < entry.1 := (List.pairwise_cons.1 h).1
      unfold Keyed.insert
      split
      next hlt =>
        refine List.pairwise_cons.2 ⟨fun entry hmem => ?_, h⟩
        rcases List.mem_cons.1 hmem with rfl | hmem
        · exact hlt
        · exact String.lt_trans hlt (hhead entry hmem)
      next hlt =>
        split
        next heq =>
          subst heq
          exact List.pairwise_cons.2 ⟨hhead, hrest⟩
        next hne =>
          refine List.pairwise_cons.2 ⟨fun entry hmem => ?_, ih hrest⟩
          rcases mem_insert hmem with rfl | hmem
          · refine Decidable.byContradiction fun hge => hne ?_
            exact String.le_antisymm (String.not_lt.1 hge) (String.not_lt.1 hlt)
          · exact hhead entry hmem

end Keyed

/-- The attributes of an element. -/
structure Attributes where
  /-- Names and values, by ascending name. -/
  entries : List (String × String)
  ascending : Keyed.Ascending entries

namespace Attributes

instance : DecidableEq Attributes := fun a b =>
  decidable_of_iff (a.entries = b.entries) <| by
    cases a; cases b; simp

/-- No attributes. -/
def empty : Attributes := ⟨[], List.Pairwise.nil⟩

instance : EmptyCollection Attributes := ⟨empty⟩

instance : Inhabited Attributes := ⟨empty⟩

/-- The value of an attribute. -/
def get? (attrs : Attributes) (name : String) : Option String :=
  Keyed.get? name attrs.entries

/-- Give an attribute a value; an earlier value is replaced. -/
def insert (attrs : Attributes) (name value : String) : Attributes :=
  ⟨Keyed.insert name value attrs.entries, attrs.ascending.insert name value⟩

/-- Give an attribute a value, unless it has one. -/
def insertNew (attrs : Attributes) (name value : String) : Attributes :=
  if (attrs.get? name).isSome then attrs else attrs.insert name value

/-- Attributes in any order; of one name's values the last stays. -/
def ofList (entries : List (String × String)) : Attributes :=
  entries.foldl (fun attrs (name, value) => attrs.insert name value) ∅

end Attributes

end ArticleTree
