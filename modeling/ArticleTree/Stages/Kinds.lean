import ArticleTree.Pass.Walk

/-! # The elements that are left

Every element that no stage has claimed becomes a document node, or a visible mark.
-/

namespace ArticleTree.Stages

/-- The document nodes that elements stand for, if nothing but their children counts. -/
def blockOfName? : String → Option Block
  | "p" => some .paragraph
  | "dfn" => some .italic
  | "i" => some .italic
  | "b" => some .bold
  | "tr" => some .row
  | "td" => some .cell
  | "th" => some .headCell
  | _ => none

/-- The level of a heading's element. -/
def headingLevel? : String → Option UInt8
  | "h1" => some 1
  | "h2" => some 2
  | "h3" => some 3
  | "h4" => some 4
  | "h5" => some 5
  | "h6" => some 6
  | _ => none

theorem innerWeight_block_lt (name : String) (attrs : Attributes) (children : Forest)
    (b : Block) :
    (Node.block b children).innerWeight < (Node.element name attrs children).weight := by
  simp [Node.innerWeight, Node.weight]

theorem innerWeight_header_lt (name : String) (attrs : Attributes) (children : Forest)
    (depth : UInt8) (anchor : Option String) :
    (Node.header depth anchor children).innerWeight <
      (Node.element name attrs children).weight := by
  simp [Node.innerWeight, Node.weight]

/-- What becomes of an element. Headings of the second and third level have depth 1 and 2,
    and those of other levels are not allowed. -/
def kindOfElement : (node : Node) → Verdict node
  | .element name attrs children =>
      match blockOfName? name, headingLevel? name with
      | some b, _ => .into (.block b children) (innerWeight_block_lt name attrs children b)
      | none, some level =>
          if level = 2 ∨ level = 3 then
            .into (.header (level - 1) none children)
              (innerWeight_header_lt name attrs children (level - 1) none)
          else
            .done (.error ("Heading of depth " ++ toString level ++ " is not allowed"))
      | none, none => .done (.notImplemented (.element name attrs children))
  | _ => .descend

/-- Elements become document nodes. -/
def kinds : Pass :=
  .onKind "fix-node-types" .element fun _ node => return kindOfElement node

end ArticleTree.Stages
