import ArticleTree.Node.Basic

/-! # Trees in which macros are in order

The parameters of a macro stand by ascending name. Unlike attributes they do not carry that
in their type, for their values are nodes again. So it is a condition on trees, and it is
about all macros of a tree, those in parameters and those in the node that a
`notImplemented` mark keeps among them.
-/

namespace ArticleTree

mutual

/-- The parameters of every macro in the node are in order. -/
def Node.isOrdered : Node → Bool
  | .element _ _ children => Node.allOrdered children
  | .template _ params => decide (Keyed.Ascending params) && Param.orderedByKey params
  | .block _ children => Node.allOrdered children
  | .header _ _ children => Node.allOrdered children
  | .list _ items => Node.itemsOrdered items
  | .image _ _ _ caption => Node.allOrdered caption
  | .gallery _ _ children => Node.allOrdered children
  | .galleryItem _ caption => Node.allOrdered caption
  | .notImplemented target => target.isOrdered
  | .text _ | .equation _ | .inlineMath _ | .error _ => true

def Node.allOrdered : List Node → Bool
  | [] => true
  | node :: nodes => node.isOrdered && Node.allOrdered nodes

def Node.itemsOrdered : List (List Node) → Bool
  | [] => true
  | item :: items => Node.allOrdered item && Node.itemsOrdered items

/-- The parameters of every macro in the value are in order. -/
def Param.isOrdered : Param → Bool
  | .content nodes => Node.allOrdered nodes
  | .list items => Param.allOrdered items
  | .text _ => true

def Param.allOrdered : List Param → Bool
  | [] => true
  | item :: items => item.isOrdered && Param.allOrdered items

def Param.orderedByKey : List (String × Param) → Bool
  | [] => true
  | (_, value) :: params => value.isOrdered && Param.orderedByKey params

end

def Article.isOrdered (article : Article) : Bool :=
  Node.allOrdered article.content

theorem Node.allOrdered_iff {nodes : List Node} :
    allOrdered nodes = true ↔ ∀ node ∈ nodes, node.isOrdered = true := by
  induction nodes with
  | nil => simp [allOrdered]
  | cons node nodes ih => simp [allOrdered, ih]

theorem Node.itemsOrdered_iff {items : List (List Node)} :
    itemsOrdered items = true ↔ ∀ item ∈ items, allOrdered item = true := by
  induction items with
  | nil => simp [itemsOrdered]
  | cons item items ih => simp [itemsOrdered, ih]

theorem Param.allOrdered_iff {items : List Param} :
    allOrdered items = true ↔ ∀ item ∈ items, item.isOrdered = true := by
  induction items with
  | nil => simp [allOrdered]
  | cons item items ih => simp [allOrdered, ih]

theorem Param.orderedByKey_iff {params : List (String × Param)} :
    orderedByKey params = true ↔ ∀ entry ∈ params, entry.2.isOrdered = true := by
  induction params with
  | nil => simp [orderedByKey]
  | cons entry params ih => simp [orderedByKey, ih]

end ArticleTree
