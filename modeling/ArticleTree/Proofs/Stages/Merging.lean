import ArticleTree.Proofs.Node.Params
import ArticleTree.Stages.NumberedParams

/-! # Merging parameters and walking below them

Merging only moves parameters, so it makes no difference whether what is below them is
rewritten before or after.
-/

namespace ArticleTree.Stages

open Keyed (mapValues)
open Param (mapForests)

variable {f : Forest → Forest}

theorem takeNumbered_mapValues (family : String) (steps number : Nat)
    (params : List (String × Param)) :
    takeNumbered family steps number (mapValues (mapForests f) params) =
      ((takeNumbered family steps number params).1.map (mapForests f),
        mapValues (mapForests f) (takeNumbered family steps number params).2) := by
  induction steps generalizing number params with
  | zero => rfl
  | succ steps ih =>
      simp only [takeNumbered, Keyed.get?_mapValues]
      cases hget : Keyed.get? (family ++ toString number) params with
      | none => rfl
      | some value =>
          simp only [Option.map_some, Keyed.erase_mapValues, ih, List.map_cons]

theorem mergeFamily_mapValues (family : String) (params : List (String × Param)) :
    mergeFamily family (mapValues (mapForests f) params) =
      mapValues (mapForests f) (mergeFamily family params) := by
  have hlength : (mapValues (mapForests f) params).length = params.length := List.length_map _
  simp only [mergeFamily, hlength, takeNumbered_mapValues, ← Keyed.insert_mapValues]
  rw [mapForests, Param.mapForestsAll_eq_map]

theorem mergeFamilies_mapValues (families : List String) (params : List (String × Param)) :
    mergeFamilies families (mapValues (mapForests f) params) =
      mapValues (mapForests f) (mergeFamilies families params) := by
  induction families generalizing params with
  | nil => rfl
  | cons family families ih =>
      simp only [mergeFamilies, List.foldl_cons] at ih ⊢
      rw [mergeFamily_mapValues, ih]

/-- A macro with its numbered parameters merged. -/
def merged (name : String) (params : List (String × Param)) : Node :=
  .template name (mergeFamilies (Markup.familiesOf name) params)

theorem merged_mapValues (name : String) (params : List (String × Param)) :
    merged name (mapValues (mapForests f) params) =
      (merged name params).refill ((merged name params).sequences.map f) := by
  rw [merged, mergeFamilies_mapValues, merged, Node.refill_template]

end ArticleTree.Stages
