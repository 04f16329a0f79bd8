import ArticleTree.Keyed

/-! # The nodes of an article

A tree starts as text and HTML elements. Macro calls recovered from rendered markup
become templates, and the article stages turn elements and templates into the document's
own nodes. What is not allowed or not understood stays in the tree as a visible `error`
or `notImplemented` node.
-/

namespace ArticleTree

/-- A document node that has nothing but a sequence of children. -/
inductive Block where
  | paragraph
  | table
  | italic
  | bold
  /-- A row of a table. -/
  | row
  | cell
  /-- A cell that heads its row or column. -/
  | headCell
  deriving DecidableEq, Repr

mutual

/-- A node of an article's tree. -/
inductive Node where
  /-- Character data. -/
  | text (data : String)
  /-- An HTML element. -/
  | element (name : String) (attrs : Attributes) (children : List Node)
  /-- A macro call, its parameters by ascending name. -/
  | template (name : String) (params : List (String × Param))
  /-- A document node that only holds children. -/
  | block (block : Block) (children : List Node)
  /-- A heading. The heading `h2` of markup has depth 1. -/
  | header (depth : UInt8) (anchor : Option String) (children : List Node)
  /-- A list, with a sequence of nodes for each item. -/
  | list (ordered : Bool) (items : List (List Node))
  /-- An embedded file. Its name has no namespace. -/
  | image (name url : String) (thumbnail : Bool) (caption : List Node)
  /-- A gallery: its items, and errors for the lines that are none. -/
  | gallery (widths heights : UInt32) (children : List Node)
  | galleryItem (name : String) (caption : List Node)
  /-- A formula on a line of its own. -/
  | equation (formula : String)
  /-- A formula inside a line. -/
  | inlineMath (formula : String)
  /-- A visible mark for what is malformed or not allowed. -/
  | error (message : String)
  /-- A visible mark for what no stage understands, with the node as it was found. -/
  | notImplemented (target : Node)

/-- The value of a macro's parameter. -/
inductive Param where
  /-- Parsed markup. -/
  | content (nodes : List Node)
  /-- The merged values of a numbered family of parameters. -/
  | list (items : List Param)
  /-- The text as it was written. -/
  | text (data : String)

end

instance : Inhabited Node := ⟨.text ""⟩

/-- A sequence of nodes. -/
abbrev Forest := List Node

/-- A converted article. -/
structure Article where
  title : String
  content : Forest

/-- The kinds of node. -/
inductive Kind where
  | text
  | element
  | template
  | header
  | list
  | image
  | gallery
  | galleryItem
  | equation
  | inlineMath
  | error
  | notImplemented
  | block (block : Block)
  deriving DecidableEq, Repr

namespace Kind

/-- The name of the kind in the written form of a tree. -/
def tag : Kind → String
  | text => "text"
  | element => "element"
  | template => "template"
  | block .paragraph => "paragraph"
  | header => "header"
  | list => "list"
  | block .table => "table"
  | image => "image"
  | gallery => "gallery"
  | galleryItem => "galleryitem"
  | equation => "equation"
  | inlineMath => "inlinemath"
  | error => "error"
  | notImplemented => "notimplemented"
  | block .italic => "i"
  | block .bold => "b"
  | block .row => "tr"
  | block .cell => "td"
  | block .headCell => "th"

/-- All kinds, in the order of their numbers in the written form of a tree. -/
def all : List Kind :=
  [text, element, template, block .paragraph, header, list, block .table, image, gallery,
    galleryItem, equation, inlineMath, error, notImplemented, block .italic, block .bold,
    block .row, block .cell, block .headCell]

/-- The kind of a name. -/
def ofTag? (name : String) : Option Kind :=
  all.find? fun kind => kind.tag = name

theorem ofTag?_tag (kind : Kind) : ofTag? kind.tag = some kind := by
  cases kind with
  | block b => cases b <;> decide
  | _ => decide

end Kind

namespace Node

/-- The kind of a node. -/
def kind : Node → Kind
  | text _ => .text
  | element .. => .element
  | template .. => .template
  | block b _ => .block b
  | header .. => .header
  | list .. => .list
  | image .. => .image
  | gallery .. => .gallery
  | galleryItem .. => .galleryItem
  | equation _ => .equation
  | inlineMath _ => .inlineMath
  | error _ => .error
  | notImplemented _ => .notImplemented

/-- The name of an element or of a macro. -/
def name? : Node → Option String
  | element name _ _ => some name
  | template name _ => some name
  | _ => none

/-- The value of an element's attribute. -/
def attr? (key : String) : Node → Option String
  | element _ attrs _ => attrs.get? key
  | _ => none

/-- The character data of a text. -/
def data? : Node → Option String
  | text data => some data
  | _ => none

/-- The children of a node that has exactly one sequence of them, captions aside. -/
def children? : Node → Option Forest
  | element _ _ children => some children
  | block _ children => some children
  | header _ _ children => some children
  | gallery _ _ children => some children
  | _ => none

end Node

namespace Param

/-- The text of a parameter that was not parsed. -/
def text? : Param → Option String
  | text data => some data
  | _ => none

mutual

/-- The parameter as a sequence of nodes: text that is not empty is one text node, and
    merged values stand one after the other. -/
def toForest : Param → Forest
  | content nodes => nodes
  | list items => toForestAll items
  | text data => if data.isEmpty then [] else [.text data]

/-- The parameters as one sequence of nodes. -/
def toForestAll : List Param → Forest
  | [] => []
  | item :: items => item.toForest ++ toForestAll items

end

end Param

namespace Node

/-- The text of a macro's parameter that was not parsed. -/
def textParam? (key : String) : Node → Option String
  | template _ params => (Keyed.get? key params).bind Param.text?
  | _ => none

end Node

end ArticleTree
