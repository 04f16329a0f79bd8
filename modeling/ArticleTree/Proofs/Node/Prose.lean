import ArticleTree.Node.Basic

/-! # The prose of nodes

All that is told in a tree: the characters of its texts, in document order. Texts that are kept
inside a `notImplemented` mark are among them. Parameters that were not parsed are no texts.
-/

namespace ArticleTree

mutual

/-- The characters of the texts in a node, in document order. -/
def Node.prose : Node → List Char
  | .text data => data.toList
  | .element _ _ children => proseOf children
  | .template _ params => proseOfNamed params
  | .block _ children => proseOf children
  | .header _ _ children => proseOf children
  | .list _ items => proseOfItems items
  | .image _ _ _ caption => proseOf caption
  | .gallery _ _ children => proseOf children
  | .galleryItem _ caption => proseOf caption
  | .equation _ | .inlineMath _ | .error _ => []
  | .notImplemented target => target.prose

/-- The characters of the texts in a sequence. -/
def proseOf : List Node → List Char
  | [] => []
  | n :: rest => n.prose ++ proseOf rest

/-- The characters of the texts in the items of a list. -/
def proseOfItems : List (List Node) → List Char
  | [] => []
  | item :: items => proseOf item ++ proseOfItems items

/-- The characters of the texts in the parsed content of a parameter. -/
def Param.prose : Param → List Char
  | .content nodes => proseOf nodes
  | .list items => proseOfParams items
  | .text _ => []

/-- The characters of the texts in the parsed content of several parameters. -/
def proseOfParams : List Param → List Char
  | [] => []
  | value :: values => value.prose ++ proseOfParams values

/-- The characters of the texts in the parsed content of the parameters of a macro. -/
def proseOfNamed : List (String × Param) → List Char
  | [] => []
  | (_, value) :: params => value.prose ++ proseOfNamed params

end

@[simp] theorem proseOf_nil : proseOf [] = [] := rfl

@[simp] theorem proseOf_cons (n : Node) (rest : Forest) :
    proseOf (n :: rest) = n.prose ++ proseOf rest := rfl

@[simp] theorem proseOf_append (xs ys : Forest) :
    proseOf (xs ++ ys) = proseOf xs ++ proseOf ys := by
  induction xs with
  | nil => rfl
  | cons n rest ih => rw [List.cons_append, proseOf_cons, proseOf_cons, ih, List.append_assoc]

/-- A list tells what its items tell. -/
theorem proseOfItems_eq (items : List Forest) : proseOfItems items = proseOf items.flatten := by
  induction items with
  | nil => rfl
  | cons item items ih => rw [proseOfItems, List.flatten_cons, proseOf_append, ih]

end ArticleTree
