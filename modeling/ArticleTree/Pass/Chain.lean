import ArticleTree.Pass.Walk

/-! # Chains of stages

A chain runs its stages from left to right, each on what the stage before it made of the
forest. A chain is itself a stage.
-/

namespace ArticleTree

/-- A named step from one forest to the next. -/
inductive Stage where
  /-- A pass is walked over the whole forest. -/
  | pass (p : Pass)
  /-- A function of the whole forest. -/
  | step (name : String) (run : Context → Forest → Session Forest)
  /-- Stages that run one after the other. -/
  | chain (name : String) (stages : List Stage)

namespace Stage

/-- The name of a stage. -/
def name : Stage → String
  | pass p => p.name
  | step name _ => name
  | chain name _ => name

mutual

/-- Run one stage. -/
def run (ctx : Context) : Stage → Forest → Session Forest
  | pass p, nodes => p.walk ctx nodes
  | step _ f, nodes => f ctx nodes
  | chain _ stages, nodes => runAll ctx stages nodes

/-- Run stages from left to right. -/
def runAll (ctx : Context) : List Stage → Forest → Session Forest
  | [], nodes => return nodes
  | stage :: stages, nodes => do runAll ctx stages (← stage.run ctx nodes)

end

end Stage

/-- A list of stages, run from left to right. -/
structure Chain where
  name : String
  stages : List Stage

namespace Chain

/-- The names of the stages. -/
def names (chain : Chain) : List String :=
  chain.stages.map Stage.name

/-- Run the stages. -/
def run (chain : Chain) (ctx : Context) (nodes : Forest) : Session Forest :=
  Stage.runAll ctx chain.stages nodes

end Chain

end ArticleTree
