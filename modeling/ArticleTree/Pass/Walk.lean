import ArticleTree.Node.Sequences
import ArticleTree.Pass.Guard
import ArticleTree.Session

/-! # Passes over a tree

A pass looks at one node and gives a verdict on it; the walk offers it every node of a
forest, and carries the verdicts out. Where a verdict sends the walk into the sequences
of a node, that node owns less than the one it stands for, so every walk ends.
-/

namespace ArticleTree

/-- What is known wherever a tree is worked on. -/
structure Context where
  /-- The title of the article. -/
  title : String
  /-- How deeply content may be nested in content. -/
  depth : Nat := 10000
  deriving DecidableEq, Repr

/-- The context as a log shows it. -/
def Context.describe (ctx : Context) : String :=
  "Context \x7b title: " ++ Text.quote ctx.title ++ ", .. \x7d"

/-- What is to become of a node. -/
inductive Verdict (node : Node) where
  /-- `other` stands for the node, and the walk goes on in the sequences of `other`. -/
  | into (other : Node) (smaller : other.innerWeight < node.weight)
  /-- `other` stands for the node as it is. -/
  | done (other : Node)
  /-- The node is taken out of the tree. -/
  | drop

/-- Keep the node, and go on inside it. -/
def Verdict.descend {node : Node} : Verdict node :=
  .into node node.innerWeight_lt

/-- A change to a tree that is decided at each node. -/
structure Pass where
  name : String
  judge : Context → (node : Node) → Session (Verdict node)

namespace Pass

mutual

/-- What stands for one node after the pass; there is none if it was taken out. -/
def node (pass : Pass) (ctx : Context) (n : Node) : Session (Option Node) := do
  match ← pass.judge ctx n with
  | .into other _ =>
      let given ← other.sequences.attach.mapM fun s => pass.walk ctx s.1
      return some (other.refill given)
  | .done other => return some other
  | .drop => return none
termination_by 2 * n.weight
decreasing_by
  have := Node.weightAll_le_innerWeight s.2
  omega

/-- What stands for a sequence after the pass, which takes its nodes from first to last. -/
def walk (pass : Pass) (ctx : Context) (nodes : Forest) : Session Forest :=
  match nodes with
  | [] => return []
  | n :: rest => do
      let first ← pass.node ctx n
      let others ← pass.walk ctx rest
      return first.toList ++ others
termination_by 2 * Node.weightAll nodes + 1
decreasing_by
  · simp only [Node.weightAll]
    omega
  · have := n.weight_pos
    simp only [Node.weightAll]
    omega

end

end Pass

/-- A rule: its verdict holds for the nodes that pass the guard. -/
structure Rule where
  guard : Node → Bool
  judge : Context → (node : Node) → Session (Verdict node)

namespace Pass

/-- Judge by the first rule whose guard a node passes; other nodes are kept. -/
def rules (name : String) (rules : List Rule) : Pass where
  name := name
  judge ctx n :=
    match rules.find? fun rule => rule.guard n with
    | some rule => rule.judge ctx n
    | none => return .descend

/-- Judge the nodes of one kind, and keep the others. -/
def onKind (name : String) (kind : Kind)
    (judge : Context → (node : Node) → Session (Verdict node)) : Pass where
  name := name
  judge ctx n := if n.kind = kind then judge ctx n else return .descend

/-- Take out every node that the condition holds for, with all it owns. -/
def delete (name : String) (condition : Node → Bool) : Pass where
  name := name
  judge _ n := return if condition n then .drop else .descend

end Pass

end ArticleTree
