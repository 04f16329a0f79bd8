import ArticleTree.Pass.Walk
import ArticleTree.Text.Affix

/-! # Lists, figures and tables -/

namespace ArticleTree.Stages

/-! ## Lists -/

/-- The item that a child of an HTML list makes: what is in it, or itself if it is no
    element. -/
def listItem : Node → Forest
  | .element _ _ children => children
  | other => [other]

theorem weightAll_listItem (node : Node) : Node.weightAll (listItem node) ≤ node.weight := by
  cases node <;> simp [listItem, Node.weightAll, Node.weight]

theorem weightItems_map_listItem (nodes : Forest) :
    Node.weightItems (nodes.map listItem) ≤ Node.weightAll nodes := by
  induction nodes with
  | nil => simp [Node.weightItems]
  | cons node nodes ih =>
      have := weightAll_listItem node
      simp only [List.map_cons, Node.weightItems, Node.weightAll]
      omega

theorem innerWeight_list_lt (name : String) (attrs : Attributes) (children : Forest)
    (ordered : Bool) :
    (Node.list ordered (children.map listItem)).innerWeight <
      (Node.element name attrs children).weight := by
  have := weightItems_map_listItem children
  simp only [Node.innerWeight, Node.weight]
  omega

/-- What becomes of an HTML list. -/
def listOfElement : (node : Node) → Verdict node
  | .element name attrs children =>
      .into (.list (name == "ol") (children.map listItem))
        (innerWeight_list_lt name attrs children (name == "ol"))
  | _ => .descend

/-- HTML lists become lists, with an item for each child. -/
def lists : Pass :=
  .rules "lists" [⟨Guard.passes [.elementOf ["ul", "ol"]], fun _ node => return listOfElement node⟩]

/-! ## Figures -/

/-- The namespace of files that are embedded. -/
def fileNamespace : String := "./Datei:"

/-- The node is an element. -/
def isElement (node : Node) : Bool :=
  node.kind = .element

/-- The image inside a figure: the first node in its first element. -/
def figureImage? (children : Forest) : Option Node := do
  (← (← children.find? isElement).children?).head?

/-- The children of the first caption. -/
def figureCaption : Forest → Forest
  | [] => []
  | .element name _ caption :: rest => if name = "figcaption" then caption else figureCaption rest
  | _ :: rest => figureCaption rest

theorem weightAll_figureCaption (children : Forest) :
    Node.weightAll (figureCaption children) ≤ Node.weightAll children := by
  induction children with
  | nil => simp [figureCaption]
  | cons node nodes ih =>
      cases node with
      | element name attrs caption =>
          simp only [figureCaption, Node.weightAll, Node.weight]
          split <;> omega
      | _ => simp only [figureCaption, Node.weightAll]; omega

theorem innerWeight_image_lt (name : String) (attrs : Attributes) (children : Forest)
    (resource url : String) (thumbnail : Bool) :
    (Node.image resource url thumbnail (figureCaption children)).innerWeight <
      (Node.element name attrs children).weight := by
  have := weightAll_figureCaption children
  simp only [Node.innerWeight, Node.weight]
  omega

/-- What becomes of a figure. -/
def imageOfFigure : (node : Node) → Verdict node
  | .element name attrs children =>
      let image := figureImage? children
      match image.bind (Node.attr? "resource"), image.bind (Node.attr? "src") with
      | some resource, some src =>
          let file := Text.withoutStart fileNamespace resource
          let thumbnail := attrs.get? "typeof" == some "mw:Image/Thumb"
          .into (.image file src thumbnail (figureCaption children))
            (innerWeight_image_lt name attrs children file src thumbnail)
      | _, _ => .done (.error "Figure does not embed a file")
  | _ => .descend

/-- Figures with an embedded file become images. -/
def figures : Pass :=
  .rules "figures"
    [⟨Guard.passes [.element "figure", .attrOf "typeof" ["mw:Image", "mw:Image/Thumb"]],
      fun _ node => return imageOfFigure node⟩]

/-- Images inside a line are no part of a document. -/
def inlineFigures : Pass :=
  .rules "inline-figures"
    [⟨Guard.passes [.element "span", .attr "typeof" "mw:Image"],
      fun _ _ => return .done (.error "Inline images are not allowed")⟩]

/-! ## Tables -/

/-- The rows of an HTML table, which may be inside a body that is its first child. -/
def tableRows : Forest → Forest
  | .element "tbody" _ rows :: _ => rows
  | .template "tbody" _ :: _ => []
  | rows => rows

theorem weightAll_tableRows (children : Forest) :
    Node.weightAll (tableRows children) ≤ Node.weightAll children := by
  unfold tableRows
  split
  · simp only [Node.weightAll, Node.weight]
    omega
  · simp [Node.weightAll]
  · exact Nat.le_refl _

theorem innerWeight_table_lt (name : String) (attrs : Attributes) (children : Forest) :
    (Node.block .table (tableRows children)).innerWeight <
      (Node.element name attrs children).weight := by
  have := weightAll_tableRows children
  simp only [Node.innerWeight, Node.weight]
  omega

/-- What becomes of an HTML table. -/
def tableOfElement : (node : Node) → Verdict node
  | .element name attrs children =>
      .into (.block .table (tableRows children)) (innerWeight_table_lt name attrs children)
  | _ => .descend

/-- HTML tables become tables of their rows. -/
def tables : Pass :=
  .rules "tables" [⟨Guard.passes [.element "table"], fun _ node => return tableOfElement node⟩]

end ArticleTree.Stages
