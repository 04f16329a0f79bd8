import ArticleTree.Proofs.Article.Listing

/-! # Siblings

No stage looks at what stands beside a node, so forests can be converted part by part. Neither
does any stage look at what stands around an element that is kept with its children: what is
inside is converted as if it stood alone, however deep it is.
-/

namespace ArticleTree

open Judgement Stages

/-- The elements that are kept with their children, and what they become. -/
def keptElements : List (String × Block) :=
  [("p", .paragraph), ("i", .italic), ("dfn", .italic), ("b", .bold), ("tr", .row),
    ("td", .cell), ("th", .headCell)]

/-- A place in markup: between siblings, or inside an element without attributes that is kept
    with its children and stands between siblings itself. -/
inductive Surroundings where
  | siblings (before after : Forest)
  | inside (before after : Forest) (name : String) (b : Block) (kept : (name, b) ∈ keptElements)
      (inner : Surroundings)

namespace Surroundings

/-- Markup with nodes put into the place. -/
def fill (nodes : Forest) : Surroundings → Forest
  | siblings before after => before ++ nodes ++ after
  | inside before after name _ _ inner =>
      before ++ [.element name ∅ (inner.fill nodes)] ++ after

/-- What becomes of the surroundings, with nodes put into the place. -/
def fillConverted (convert : Forest → Forest) (nodes : Forest) : Surroundings → Forest
  | siblings before after => convert before ++ nodes ++ convert after
  | inside before after _ b _ inner =>
      convert before ++ [.block b (inner.fillConverted convert nodes)] ++ convert after

end Surroundings

section

variable {options : Options} {name : String} {b : Block}

theorem conversion_append (xs ys : Forest) :
    conversion options (xs ++ ys) = conversion options xs ++ conversion options ys := by
  simp only [conversion, walk_append]

theorem kept_name (h : (name, b) ∈ keptElements) : blockOfName? name = some b := by
  have hall : ∀ entry ∈ keptElements, blockOfName? entry.1 = some entry.2 := by decide
  exact hall _ h

/-- Without attributes, only lists and tables are claimed by their names alone. -/
theorem claim?_kept (h : (name, b) ∈ keptElements) (children : Forest) :
    claim? (.element name ∅ children) = none := by
  have hall : ∀ entry ∈ keptElements, claim? (.element entry.1 ∅ []) = none := by decide
  rw [claim?_element name ∅ children []]
  exact hall _ h

theorem conversion_kept (h : (name, b) ∈ keptElements) (children : Forest) :
    conversion options [.element name ∅ children] = [.block b (conversion options children)] := by
  have hclaim := claim?_kept h children
  simp only [conversion_eq_staged]
  rw [staged_element hclaim fun _ => isFragment_bare name children,
    late_block (kept_name h) (by decide)]
  rfl

theorem conversion_fill (place : Surroundings) (nodes : Forest) :
    conversion options (place.fill nodes) =
      place.fillConverted (conversion options) (conversion options nodes) := by
  induction place with
  | siblings before after =>
      simp only [Surroundings.fill, Surroundings.fillConverted, conversion_append]
  | inside before after name b kept inner ih =>
      simp only [Surroundings.fill, Surroundings.fillConverted, conversion_append,
        conversion_kept kept, ih]

theorem stage_append {stage : Stage} (h : stage ∈ (articleChain options).stages) (ctx : Context)
    (xs ys : Forest) :
    stage.run ctx (xs ++ ys) = do
      let first ← stage.run ctx xs
      let second ← stage.run ctx ys
      return first ++ second := by
  have hpass : ∃ p : Pass, stage = .pass p := by
    simp only [articleChain, List.mem_cons, List.not_mem_nil, or_false] at h
    rcases h with h | h | h | h | h | h | h | h | h | h | h | h <;> exact ⟨_, h⟩
  obtain ⟨p, rfl⟩ := hpass
  simp only [Stage.run]
  exact p.walk_append ctx xs ys

end

/-- Forests are converted part by part, and what is inside an element that is kept is converted
    as it is alone. Nodes become the same wherever they are put, since no stage looks at
    siblings. -/
theorem Article.convert_siblings (options : Options) :
    ∃ convert : Forest → Forest,
      (∀ ctx nodes, Article.convert options ctx nodes = .done (convert nodes)) ∧
      (∀ xs ys, convert (xs ++ ys) = convert xs ++ convert ys) ∧
      (∀ name b, (name, b) ∈ keptElements → ∀ children,
        convert [.element name ∅ children] = [.block b (convert children)]) ∧
      (∀ (place : Surroundings) nodes,
        convert (place.fill nodes) = place.fillConverted convert (convert nodes)) ∧
      ∀ stage ∈ (articleChain options).stages, ∀ ctx xs ys,
        stage.run ctx (xs ++ ys) = do
          let first ← stage.run ctx xs
          let second ← stage.run ctx ys
          return first ++ second :=
  ⟨conversion options, convert_eq options, conversion_append,
    fun _ _ kept => conversion_kept kept, conversion_fill, fun _ h => stage_append h⟩

/-- A cell whose paragraph begins with a text. -/
def insideCell : Surroundings :=
  .inside [.text "before"] [] "td" .cell (by decide)
    (.inside [] [.text "after"] "p" .paragraph (by decide) (.siblings [.text "first"] []))

theorem Article.convert_siblings_insideCell :
    let list : Node := .element "ul" ∅ [.element "li" ∅ [.text "item"]]
    ("p", Block.paragraph) ∈ keptElements ∧
      ∃ made, Article.convert ⟨true⟩ ⟨"Title", 0⟩ [list] = .done made ∧
        Article.convert ⟨true⟩ ⟨"Title", 0⟩ (insideCell.fill [list]) =
          .done [.text "before",
            .block .cell [.block .paragraph (.text "first" :: made), .text "after"]] := by
  intro list
  obtain ⟨convert, hdone, happend, -, hfill, -⟩ := Article.convert_siblings ⟨true⟩
  have htext (data : String) : convert [.text data] = [.text data] := by
    have hmade := hdone ⟨"Title", 0⟩ [.text data]
    rw [convert_eq, conversion_text] at hmade
    exact (Session.done.inj hmade).symm
  have hnil : convert [] = [] := by simpa using happend [] []
  refine ⟨by decide, convert [list], hdone _ _, ?_⟩
  rw [hdone, hfill]
  simp only [insideCell, Surroundings.fillConverted, htext, hnil, List.nil_append,
    List.append_nil, List.singleton_append]

end ArticleTree
