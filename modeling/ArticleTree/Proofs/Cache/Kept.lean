import ArticleTree.Cache.Store
import ArticleTree.Proofs.Json.Nesting
import ArticleTree.Proofs.Keyed
import ArticleTree.Proofs.Text.Affix

/-! # Stores that are written down

A store is written as a line that says what it is, and an object whose fields are strings. What
was written is read back as the same store. Reading sorts the entries, which changes nothing,
for the keys of a store ascend.
-/

namespace ArticleTree

namespace Cache.Store

theorem entriesOf?_ofStrings (entries : List (String × String)) :
    entriesOf? (.ofStrings entries) = some entries := by
  induction entries with
  | nil => rfl
  | cons entry entries ih =>
      rw [Json.ofStrings, entriesOf?] at ih ⊢
      rw [List.map_cons, List.mapM_cons, ih]
      rfl

theorem render_eq (store : Store) :
    store.render = heading ++ (Json.ofStrings store.entries).compact := rfl

/-- A text without the heading is no store. -/
theorem parse?_eq_none {text : String} (hempty : text.isEmpty = false)
    (h : ¬ heading.toList <+: text.toList) : parse? text = none := by
  have hstart : Text.withoutStart? heading text = none := by
    rw [Text.withoutStart?, Option.map_eq_none_iff, ← Option.not_isSome_iff_eq_none,
      Text.isSome_dropStart?]
    exact h
  simp [parse?, hempty, hstart]

/-- What was written is read back. -/
theorem parse?_render {store : Store} (h : Keyed.Ascending store.entries) :
    parse? store.render = some store := by
  have hempty : store.render.isEmpty = false := by
    rw [render_eq, heading]
    simp
  have hstart : Text.withoutStart? heading store.render =
      some (Json.ofStrings store.entries).compact := by
    rw [render_eq, Text.withoutStart?, String.toList_append, Text.dropStart?_eq_some.2 rfl,
      Option.map_some, String.ofList_toList]
  rw [parse?, hempty, hstart]
  simp only [Bool.false_eq_true, if_false, Option.bind_eq_bind, Option.bind_some,
    Json.parse?_ofStrings, entriesOf?_ofStrings, h.ofList_eq (.refl _)]
  rfl

end Cache.Store

end ArticleTree
