import ArticleTree.Html.Token
import ArticleTree.Node.Basic
import ArticleTree.Text.Blank

/-! # From tokens to a forest

Start and end tags must be balanced: an end tag closes the innermost open element, and
nothing stays open. Renderers break lines and indent between tags, so character data is
put into a normal form on the way: chunks of blanks alone are dropped, a run of blanks
becomes one space, the first child of an element has no blank in front, and the last one
none behind.
-/

namespace ArticleTree.Html

/-- The elements that have no content, and no end tag. -/
def voidElements : List String :=
  ["area", "base", "br", "col", "embed", "hr", "img", "input", "link", "meta", "param",
    "source", "track", "wbr"]

inductive Unbalanced where
  /-- An end tag where no element is open. -/
  | nothingOpen (closing : String)
  /-- An end tag of another name than the innermost open element's. -/
  | otherOpen (closing opened : String)
  /-- An element that is still open at the end. -/
  | unclosed (opened : String)
  deriving DecidableEq, Repr

/-- A tag of the name, as messages write it. -/
def tagText (mark name : String) : String :=
  "<" ++ mark ++ name ++ ">"

def Unbalanced.message : Unbalanced → String
  | nothingOpen closing => "closing " ++ tagText "/" closing ++ " without an open element"
  | otherOpen closing opened =>
      "closing " ++ tagText "/" closing ++ " does not match open " ++ tagText "" opened
  | unclosed opened => "unclosed element " ++ tagText "" opened

/-- An element whose end tag has not come yet. -/
structure OpenElement where
  name : String
  attrs : Attributes
  /-- The children so far, the latest first. -/
  children : Forest

structure Builder where
  /-- The finished roots, the latest first. -/
  roots : Forest
  /-- The open elements, the innermost first. -/
  stack : List OpenElement
  /-- No child was met yet since the innermost element was opened. -/
  atStart : Bool
  /-- Character data that may still go on. -/
  pending : String

/-- Blank characters are cut off the end of a sequence's last text. The sequence is given
    with its last node first. -/
def trimLastText : Forest → Forest
  | .text data :: rest => .text (Text.trimEnd data) :: rest
  | nodes => nodes

/-- Add character data to a sequence that has its last node first. -/
def appendText (data : String) : Forest → Forest
  | .text before :: rest => .text (before ++ data) :: rest
  | nodes => .text data :: nodes

namespace Builder

def start : Builder := ⟨[], [], true, ""⟩

/-- Change the sequence that the next child belongs to. -/
def modifyContainer (f : Forest → Forest) (b : Builder) : Builder :=
  match b.stack with
  | [] => { b with roots := f b.roots }
  | innermost :: outer =>
      { b with stack := { innermost with children := f innermost.children } :: outer }

/-- Add character data in its normal form. -/
def addText (data : String) (b : Builder) : Builder :=
  if Text.isBlankText data then b
  else
    let data := Text.collapse data
    let data := if b.atStart then Text.trimStart data else data
    { b with atStart := false }.modifyContainer (appendText data)

def flush (b : Builder) : Builder :=
  { b.addText b.pending with pending := "" }

def openElement (name : String) (attrs : Attributes) (b : Builder) : Builder :=
  { b with stack := ⟨name, attrs, []⟩ :: b.stack, atStart := true }

/-- Close the innermost element, which must be of this name. -/
def closeElement (name : String) (b : Builder) : Except Unbalanced Builder :=
  match b.stack with
  | [] => .error (.nothingOpen name)
  | innermost :: outer =>
      if innermost.name = name then
        let node := Node.element name innermost.attrs (trimLastText innermost.children).reverse
        .ok ({ b with stack := outer, atStart := false }.modifyContainer (node :: ·))
      else
        .error (.otherOpen name innermost.name)

def step (b : Builder) : Token → Except Unbalanced Builder
  | .text data => .ok { b with pending := b.pending ++ data }
  | .startTag name attrs selfClosing =>
      let opened := b.flush.openElement name attrs
      if selfClosing || voidElements.contains name then opened.closeElement name else .ok opened
  | .endTag name => b.flush.closeElement name
  | .comment | .doctype | .fault => .ok b.flush

/-- The forest, if nothing is open any more. -/
def finish (b : Builder) : Except Unbalanced Forest :=
  match b.stack with
  | [] => .ok b.flush.roots.reverse
  | innermost :: _ => .error (.unclosed innermost.name)

end Builder

def forestOf (tokens : List Token) : Except Unbalanced Forest := do
  (← tokens.foldlM Builder.step Builder.start).finish

end ArticleTree.Html
