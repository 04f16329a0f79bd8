import ArticleTree.Node.Basic

/-! # The sequences inside a node

A node owns sequences of nodes: its children, the items of a list, a caption, or the
parsed parameters of a macro. `Node.sequences` lists them in document order and
`Node.refill` puts others in their place; every traversal is built from these two. The
node kept by a `notImplemented` mark is not among them.

`Node.weight` counts the nodes and texts that such traversals can reach, so that work on
the sequences of a node is work on something smaller.
-/

namespace ArticleTree

namespace Param

mutual

/-- The parsed sequences in a parameter, in order. -/
def sequences : Param → List Forest
  | content nodes => [nodes]
  | list items => sequencesAll items
  | text _ => []

/-- The parsed sequences in several parameters, in order. -/
def sequencesAll : List Param → List Forest
  | [] => []
  | item :: items => item.sequences ++ sequencesAll items

end

mutual

/-- Put sequences in the place of the parameter's own, and return those left over. -/
def refill : Param → List Forest → Param × List Forest
  | content _, nodes :: rest => (content nodes, rest)
  | content nodes, [] => (content nodes, [])
  | list items, given =>
      let (items, rest) := refillAll items given
      (list items, rest)
  | text data, given => (text data, given)

/-- Put sequences in the place of those in several parameters. -/
def refillAll : List Param → List Forest → List Param × List Forest
  | [], given => ([], given)
  | item :: items, given =>
      let (item, rest) := item.refill given
      let (items, rest) := refillAll items rest
      (item :: items, rest)

end

/-- The parsed sequences in the parameters of a macro, by ascending key. -/
def sequencesByKey : List (String × Param) → List Forest
  | [] => []
  | (_, value) :: params => value.sequences ++ sequencesByKey params

/-- Put sequences in the place of those in the parameters of a macro. -/
def refillByKey : List (String × Param) → List Forest → List (String × Param)
  | [], _ => []
  | (key, value) :: params, given =>
      let (value, rest) := value.refill given
      (key, value) :: refillByKey params rest

end Param

namespace Node

/-- The sequences of nodes that a node owns, in document order. -/
def sequences : Node → List Forest
  | element _ _ children => [children]
  | template _ params => Param.sequencesByKey params
  | block _ children => [children]
  | header _ _ children => [children]
  | list _ items => items
  | image _ _ _ caption => [caption]
  | gallery _ _ children => [children]
  | galleryItem _ caption => [caption]
  | text _ | equation _ | inlineMath _ | error _ | notImplemented _ => []

/-- The node with other sequences in the place of its own. -/
def refill (given : List Forest) : Node → Node
  | element name attrs children => element name attrs (given.headD children)
  | template name params => template name (Param.refillByKey params given)
  | block b children => block b (given.headD children)
  | header depth anchor children => header depth anchor (given.headD children)
  | list ordered _ => list ordered given
  | image name url thumbnail caption => image name url thumbnail (given.headD caption)
  | gallery widths heights children => gallery widths heights (given.headD children)
  | galleryItem name caption => galleryItem name (given.headD caption)
  | leaf => leaf

/-- Pass every sequence that the node owns through `f`, in document order. -/
def mapChildren {m : Type → Type} [Monad m] (f : Forest → m Forest) (node : Node) : m Node := do
  return node.refill (← node.sequences.mapM f)

end Node

/-- Pass every parsed sequence in the parameter through `f`, in order. -/
def Param.mapContent {m : Type → Type} [Monad m] (f : Forest → m Forest) (value : Param) :
    m Param := do
  return (value.refill (← value.sequences.mapM f)).1

/-! ## Weight -/

mutual

/-- One for the node, and the weight of what it owns. -/
def Node.weight : Node → Nat
  | .element _ _ children => 1 + Node.weightAll children
  | .template _ params => 1 + Param.weightByKey params
  | .block _ children => 1 + Node.weightAll children
  | .header _ _ children => 1 + Node.weightAll children
  | .list _ items => 1 + Node.weightItems items
  | .image _ _ _ caption => 1 + Node.weightAll caption
  | .gallery _ _ children => 1 + Node.weightAll children
  | .galleryItem _ caption => 1 + Node.weightAll caption
  | .text _ | .equation _ | .inlineMath _ | .error _ | .notImplemented _ => 1

/-- The weight of a sequence is the sum over its nodes. -/
def Node.weightAll : List Node → Nat
  | [] => 0
  | node :: nodes => node.weight + Node.weightAll nodes

/-- The weight of a list's items. -/
def Node.weightItems : List (List Node) → Nat
  | [] => 0
  | item :: items => Node.weightAll item + Node.weightItems items

/-- The weight of a parameter: of its nodes, or one for a text. -/
def Param.weight : Param → Nat
  | .content nodes => Node.weightAll nodes
  | .list items => Param.weightAll items
  | .text _ => 1

/-- The weight of several parameters. -/
def Param.weightAll : List Param → Nat
  | [] => 0
  | item :: items => item.weight + Param.weightAll items

/-- The weight of the parameters of a macro. -/
def Param.weightByKey : List (String × Param) → Nat
  | [] => 0
  | (_, value) :: params => value.weight + Param.weightByKey params

end

/-- The weight of what the node owns. -/
def Node.innerWeight (node : Node) : Nat :=
  node.weight - 1

namespace Node

theorem weight_pos (node : Node) : 0 < node.weight := by
  cases node <;> (simp only [weight]; omega)

theorem innerWeight_lt (node : Node) : node.innerWeight < node.weight := by
  have := node.weight_pos
  simp only [innerWeight]
  omega

theorem weightAll_append (xs ys : List Node) :
    weightAll (xs ++ ys) = weightAll xs + weightAll ys := by
  induction xs with
  | nil => simp [weightAll]
  | cons node nodes ih => simp only [List.cons_append, weightAll, ih]; omega

theorem weight_le_weightAll {node : Node} {nodes : List Node} (h : node ∈ nodes) :
    node.weight ≤ weightAll nodes := by
  induction nodes with
  | nil => cases h
  | cons first rest ih =>
      rcases List.mem_cons.1 h with rfl | h
      · simp only [weightAll]; omega
      · have := ih h
        simp only [weightAll]; omega

theorem weightAll_le_weightItems {item : List Node} {items : List (List Node)}
    (h : item ∈ items) : weightAll item ≤ weightItems items := by
  induction items with
  | nil => cases h
  | cons first rest ih =>
      rcases List.mem_cons.1 h with rfl | h
      · simp only [weightItems]; omega
      · have := ih h
        simp only [weightItems]; omega

end Node

namespace Param

mutual

theorem weightAll_le_of_mem_sequences (value : Param) {nodes : Forest}
    (h : nodes ∈ value.sequences) : Node.weightAll nodes ≤ value.weight := by
  cases value with
  | content own => simp_all [sequences, weight]
  | list items =>
      simp only [sequences] at h
      simpa only [weight] using weightAll_le_of_mem_sequencesAll items h
  | text data => simp [sequences] at h

theorem weightAll_le_of_mem_sequencesAll (items : List Param) {nodes : Forest}
    (h : nodes ∈ sequencesAll items) : Node.weightAll nodes ≤ weightAll items := by
  cases items with
  | nil => simp [sequencesAll] at h
  | cons item items =>
      simp only [sequencesAll, List.mem_append] at h
      simp only [weightAll]
      rcases h with h | h
      · have := weightAll_le_of_mem_sequences item h
        omega
      · have := weightAll_le_of_mem_sequencesAll items h
        omega

end

theorem weightAll_le_of_mem_sequencesByKey {params : List (String × Param)} {nodes : Forest}
    (h : nodes ∈ sequencesByKey params) : Node.weightAll nodes ≤ weightByKey params := by
  induction params with
  | nil => simp [sequencesByKey] at h
  | cons entry params ih =>
      obtain ⟨key, value⟩ := entry
      simp only [sequencesByKey, List.mem_append] at h
      simp only [weightByKey]
      rcases h with h | h
      · have := weightAll_le_of_mem_sequences value h
        omega
      · have := ih h
        omega

end Param

/-- A sequence that a node owns weighs no more than all it owns. -/
theorem Node.weightAll_le_innerWeight {node : Node} {nodes : Forest}
    (h : nodes ∈ node.sequences) : weightAll nodes ≤ node.innerWeight := by
  cases node with
  | template name params =>
      have := Param.weightAll_le_of_mem_sequencesByKey h
      simp only [innerWeight, weight]
      omega
  | list ordered items =>
      have : weightAll nodes ≤ weightItems items := weightAll_le_weightItems h
      simp only [innerWeight, weight]
      omega
  | _ => simp_all [sequences, innerWeight, weight]

end ArticleTree
