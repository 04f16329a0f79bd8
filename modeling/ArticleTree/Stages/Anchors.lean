import ArticleTree.Pass.Walk
import ArticleTree.Text.Blank

/-! # Anchors of headings

A heading that ends with an anchor macro gets the macro's parameter as its anchor, and the
macro is taken out of the heading.
-/

namespace ArticleTree.Stages

/-- The name of the macro that sets an anchor. -/
def anchorMacro : String := "Anker"

/-- The anchor that a node sets. -/
def anchorOf? (node : Node) : Option String :=
  if Guard.passes [.template anchorMacro] node then node.textParam? "1" else none

/-- The sequence without blanks at the end of its last text. -/
def trimLast (nodes : Forest) : Forest :=
  match nodes.reverse with
  | .text data :: rest => (.text (Text.trimEnd data) :: rest).reverse
  | _ => nodes

/-- What becomes of a heading. -/
def hoistAnchor : (node : Node) → Verdict node
  | .header depth _ children =>
      match children.getLast?.bind anchorOf? with
      | some anchor => .done (.header depth (some anchor) (trimLast children.dropLast))
      | none => .descend
  | _ => .descend

/-- Headings that end with an anchor get it. -/
def anchors : Pass :=
  .onKind "heading-anchors" .header fun _ node => return hoistAnchor node

end ArticleTree.Stages
