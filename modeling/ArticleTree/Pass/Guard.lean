import ArticleTree.Failure
import ArticleTree.Node.Basic

/-! # Checks on the shape of a node

A guard is a list of checks. It serves as the condition of a rule, where a check that
fails only means that the rule does not apply, and as a demand on what was read, where
the first check that fails is the failure.
-/

namespace ArticleTree

/-- A check on one node. -/
inductive Check where
  | kind (k : Kind)
  /-- The node is an element of this name. -/
  | element (name : String)
  /-- The node is an element of one of these names. -/
  | elementOf (names : List String)
  /-- The node is a macro call of this name. -/
  | template (name : String)
  /-- The attribute has this value. -/
  | attr (key value : String)
  /-- The attribute has one of these values. -/
  | attrOf (key : String) (values : List String)
  /-- The attribute is there. -/
  | hasAttr (key : String)
  /-- A condition that was decided elsewhere, and what to say if it does not hold. -/
  | holds (condition : Bool) (message : String)
  deriving DecidableEq, Repr

namespace Check

/-- Nothing, if the condition holds. -/
def complainUnless (condition : Bool) (message : String) : Option String :=
  if condition then none else some message

/-- What to say of a node that is not of the kind. -/
def kindFailure? (kind : Kind) (node : Node) : Option String :=
  complainUnless (node.kind = kind) ("expected " ++ kind.tag ++ " node, found " ++ node.kind.tag)

/-- What to say of a node that has not the name. -/
def nameFailure? (name : String) (node : Node) : Option String :=
  complainUnless (node.name? = some name)
    ("expected name " ++ Text.quote name ++ ", found " ++ Text.quoteOption node.name?)

/-- What to say if the check fails. -/
def failure? : Check → Node → Option String
  | .kind k, node => kindFailure? k node
  | element name, node => (kindFailure? .element node).or (nameFailure? name node)
  | elementOf names, node =>
      (kindFailure? .element node).or <|
        complainUnless (node.name?.any names.contains)
          ("expected one of <" ++ ">, <".intercalate names ++ ">, found " ++
            Text.quoteOption node.name?)
  | template name, node => (kindFailure? .template node).or (nameFailure? name node)
  | attr key value, node =>
      complainUnless (node.attr? key = some value)
        ("expected " ++ key ++ "=" ++ Text.quote value ++ ", found " ++
          Text.quoteOption (node.attr? key))
  | attrOf key values, node =>
      complainUnless ((node.attr? key).any values.contains)
        ("expected " ++ key ++ " in " ++ Text.quoteAll values ++ ", found " ++
          Text.quoteOption (node.attr? key))
  | hasAttr key, node => complainUnless (node.attr? key).isSome ("expected attribute " ++ key)
  | holds condition message, _ => complainUnless condition message

end Check

/-- Checks that must all hold. -/
abbrev Guard := List Check

namespace Guard

/-- What the first check that fails has to say. -/
def failure? (guard : Guard) (node : Node) : Option String :=
  guard.findSome? fun check => check.failure? node

/-- All checks hold. -/
def passes (guard : Guard) (node : Node) : Bool :=
  (guard.failure? node).isNone

/-- Demand that all checks hold. -/
def ensure (guard : Guard) (node : Node) : Except Failure Unit :=
  match guard.failure? node with
  | none => .ok ()
  | some message => .error (.structural message)

end Guard

end ArticleTree
