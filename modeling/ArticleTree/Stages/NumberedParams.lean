import ArticleTree.Markup.MacroName
import ArticleTree.Pass.Walk

/-! # Numbered parameters

The parameters `item1`, `item2` and so on of a macro become the one parameter
`item_list`, which holds their values in the order of their numbers. The family ends at
the first number that is missing.
-/

namespace ArticleTree.Stages

open Markup (familiesOf)

/-- Take the numbered parameters of a family out, from `number` on. There are no more of
    them than `steps`. -/
def takeNumbered (family : String) : (steps number : Nat) → List (String × Param) →
    List Param × List (String × Param)
  | 0, _, params => ([], params)
  | steps + 1, number, params =>
      let key := family ++ toString number
      match Keyed.get? key params with
      | none => ([], params)
      | some value =>
          let (values, rest) := takeNumbered family steps (number + 1) (Keyed.erase key params)
          (value :: values, rest)

/-- Merge the numbered parameters of a family. -/
def mergeFamily (family : String) (params : List (String × Param)) : List (String × Param) :=
  let (values, rest) := takeNumbered family params.length 1 params
  Keyed.insert (family ++ "_list") (.list values) rest

/-- Merge the numbered parameters of several families. -/
def mergeFamilies (families : List String) (params : List (String × Param)) :
    List (String × Param) :=
  families.foldl (fun params family => mergeFamily family params) params

theorem weightByKey_erase_le (key : String) (params : List (String × Param)) :
    Param.weightByKey (Keyed.erase key params) ≤ Param.weightByKey params := by
  induction params with
  | nil => simp [Keyed.erase, Param.weightByKey]
  | cons entry params ih =>
      obtain ⟨k, v⟩ := entry
      unfold Keyed.erase
      split <;> simp only [Param.weightByKey] <;> omega

theorem weightByKey_erase (key : String) (params : List (String × Param)) {value : Param}
    (h : Keyed.get? key params = some value) :
    value.weight + Param.weightByKey (Keyed.erase key params) ≤ Param.weightByKey params := by
  induction params with
  | nil => simp [Keyed.get?] at h
  | cons entry params ih =>
      obtain ⟨k, v⟩ := entry
      unfold Keyed.get? at h
      unfold Keyed.erase
      split at h
      next heq =>
        cases h
        have := weightByKey_erase_le key params
        simp only [heq, ite_true, Param.weightByKey]
        omega
      next hne =>
        have := ih h
        simp only [hne, ite_false, Param.weightByKey]
        omega

theorem weightByKey_insert (key : String) (value : Param) (params : List (String × Param)) :
    Param.weightByKey (Keyed.insert key value params) ≤
      value.weight + Param.weightByKey params := by
  induction params with
  | nil => simp [Keyed.insert, Param.weightByKey]
  | cons entry params ih =>
      obtain ⟨k, v⟩ := entry
      unfold Keyed.insert
      split
      · simp [Param.weightByKey]
      · split <;> simp only [Param.weightByKey] <;> omega

theorem weight_takeNumbered (family : String) (steps number : Nat)
    (params : List (String × Param)) :
    Param.weightAll (takeNumbered family steps number params).1 +
        Param.weightByKey (takeNumbered family steps number params).2 ≤
      Param.weightByKey params := by
  induction steps generalizing number params with
  | zero => simp [takeNumbered, Param.weightAll]
  | succ steps ih =>
      unfold takeNumbered
      dsimp only
      split
      · simp [Param.weightAll]
      next value h =>
        have herase := weightByKey_erase _ _ h
        have htake := ih (number + 1) (Keyed.erase (family ++ toString number) params)
        simp only [Param.weightAll]
        omega

theorem weightByKey_mergeFamily (family : String) (params : List (String × Param)) :
    Param.weightByKey (mergeFamily family params) ≤ Param.weightByKey params := by
  have htake := weight_takeNumbered family params.length 1 params
  have hinsert := weightByKey_insert (family ++ "_list")
    (.list (takeNumbered family params.length 1 params).1)
    (takeNumbered family params.length 1 params).2
  simp only [mergeFamily, Param.weight] at hinsert ⊢
  omega

/-- Merging gives the walk no more to do than there was. -/
theorem weightByKey_mergeFamilies (families : List String) (params : List (String × Param)) :
    Param.weightByKey (mergeFamilies families params) ≤ Param.weightByKey params := by
  induction families generalizing params with
  | nil => simp [mergeFamilies]
  | cons family families ih =>
      have hfirst := weightByKey_mergeFamily family params
      have hrest := ih (mergeFamily family params)
      simp only [mergeFamilies, List.foldl_cons] at hrest ⊢
      omega

theorem innerWeight_merged_lt (name : String) (params : List (String × Param)) :
    (Node.template name (mergeFamilies (familiesOf name) params)).innerWeight <
      (Node.template name params).weight := by
  have := weightByKey_mergeFamilies (familiesOf name) params
  simp only [Node.innerWeight, Node.weight]
  omega

/-- What becomes of a macro's numbered parameters. -/
def mergeNumbered : (node : Node) → Verdict node
  | .template name params =>
      if (familiesOf name).isEmpty then .descend
      else
        .into (.template name (mergeFamilies (familiesOf name) params))
          (innerWeight_merged_lt name params)
  | _ => .descend

/-- The numbered parameters of every macro that has them are merged. -/
def numberedParams : Pass :=
  .onKind "merge-list-params" .template fun _ node => return mergeNumbered node

end ArticleTree.Stages
