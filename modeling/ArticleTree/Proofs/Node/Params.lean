import ArticleTree.Proofs.Keyed
import ArticleTree.Proofs.Node.Live

/-! # A function on all sequences of a macro

Walking below a macro is a function on each of the sequences that its parameters own. Keys and
texts stay, so looking a parameter up and walking below it can be done in either order.
-/

namespace ArticleTree

namespace Keyed

variable {α β : Type}

/-- The same keys with other values. -/
def mapValues (f : α → β) (entries : List (String × α)) : List (String × β) :=
  entries.map fun entry => (entry.1, f entry.2)

theorem get?_mapValues (f : α → β) (key : String) (entries : List (String × α)) :
    get? key (mapValues f entries) = (get? key entries).map f := by
  induction entries with
  | nil => rfl
  | cons entry rest ih =>
      simp only [mapValues, List.map_cons, get?] at ih ⊢
      split
      · rfl
      · exact ih

theorem erase_mapValues (f : α → β) (key : String) (entries : List (String × α)) :
    erase key (mapValues f entries) = mapValues f (erase key entries) := by
  induction entries with
  | nil => rfl
  | cons entry rest ih =>
      simp only [mapValues, List.map_cons, erase] at ih ⊢
      split
      · exact ih
      · rw [ih, List.map_cons]

theorem insert_mapValues (f : α → β) (key : String) (value : α) (entries : List (String × α)) :
    insert key (f value) (mapValues f entries) = mapValues f (insert key value entries) := by
  induction entries with
  | nil => rfl
  | cons entry rest ih =>
      simp only [mapValues, List.map_cons, insert] at ih ⊢
      split
      · rfl
      · split
        · rfl
        · rw [ih, List.map_cons]

end Keyed

namespace Param

mutual

/-- The parameter with the function done to all its sequences. -/
def mapForests (f : Forest → Forest) : Param → Param
  | content nodes => content (f nodes)
  | list items => list (mapForestsAll f items)
  | text data => text data

def mapForestsAll (f : Forest → Forest) : List Param → List Param
  | [] => []
  | item :: items => item.mapForests f :: mapForestsAll f items

end

variable {f : Forest → Forest}

theorem mapForestsAll_eq_map (items : List Param) :
    mapForestsAll f items = items.map (mapForests f) := by
  induction items with
  | nil => rfl
  | cons item items ih => rw [mapForestsAll, ih, List.map_cons]

@[simp] theorem text?_mapForests (value : Param) : (value.mapForests f).text? = value.text? := by
  cases value <;> rfl

mutual

theorem refill_map_append (value : Param) (rest : List Forest) :
    value.refill (value.sequences.map f ++ rest) = (value.mapForests f, rest) := by
  cases value with
  | content nodes => rfl
  | list items =>
      simp only [refill, sequences, refillAll_map_append items, mapForests]
  | text data => rfl

theorem refillAll_map_append (items : List Param) (rest : List Forest) :
    refillAll items ((sequencesAll items).map f ++ rest) = (mapForestsAll f items, rest) := by
  cases items with
  | nil => rfl
  | cons item items =>
      simp only [refillAll, sequencesAll, List.map_append, List.append_assoc,
        refill_map_append item, refillAll_map_append items, mapForestsAll]

end

theorem refillByKey_map (params : List (String × Param)) :
    refillByKey params ((sequencesByKey params).map f) =
      Keyed.mapValues (mapForests f) params := by
  induction params with
  | nil => rfl
  | cons entry params ih =>
      obtain ⟨key, value⟩ := entry
      simp only [refillByKey, sequencesByKey, List.map_append, refill_map_append, ih,
        Keyed.mapValues, List.map_cons]

/-- The function goes over a sequence node by node, and leaves texts as they are. -/
structure Distributes (f : Forest → Forest) : Prop where
  nil : f [] = []
  append : ∀ xs ys, f (xs ++ ys) = f xs ++ f ys
  text : ∀ data, f [.text data] = [.text data]

theorem Distributes.comp (hf : Distributes f) {g : Forest → Forest} (hg : Distributes g) :
    Distributes fun nodes => f (g nodes) where
  nil := by rw [hg.nil, hf.nil]
  append xs ys := by rw [hg.append, hf.append]
  text data := by rw [hg.text, hf.text]

mutual

theorem toForest_mapForests (hf : Distributes f) (value : Param) :
    (value.mapForests f).toForest = f value.toForest := by
  cases value with
  | content nodes => rfl
  | list items => exact toForestAll_mapForestsAll hf items
  | text data =>
      simp only [mapForests, toForest]
      split
      · exact hf.nil.symm
      · exact (hf.text data).symm

theorem toForestAll_mapForestsAll (hf : Distributes f) (items : List Param) :
    toForestAll (mapForestsAll f items) = f (toForestAll items) := by
  cases items with
  | nil => exact hf.nil.symm
  | cons item items =>
      simp only [mapForestsAll, toForestAll, toForest_mapForests hf item,
        toForestAll_mapForestsAll hf items, hf.append]

end

end Param

theorem Node.refill_template (f : Forest → Forest) (name : String)
    (params : List (String × Param)) :
    (template name params).refill ((template name params).sequences.map f) =
      template name (Keyed.mapValues (Param.mapForests f) params) :=
  congrArg (template name) (Param.refillByKey_map params)

theorem Node.textParam?_mapValues {f : Forest → Forest} {name : String}
    {params : List (String × Param)} (key : String) :
    (Node.template name (Keyed.mapValues (Param.mapForests f) params)).textParam? key =
      (Node.template name params).textParam? key := by
  simp only [Node.textParam?, Keyed.get?_mapValues]
  cases Keyed.get? key params with
  | none => rfl
  | some value => exact value.text?_mapForests

end ArticleTree
