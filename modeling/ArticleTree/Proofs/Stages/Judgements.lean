import ArticleTree.Article
import ArticleTree.Proofs.Keyed
import ArticleTree.Proofs.Pass.Guard
import ArticleTree.Proofs.Pass.Judgement

/-! # The stages of the article chain as judgements

All twelve stages decide by the node alone. For each there is the judgement that it is the
pass of, the nodes that it can put in the place of another, and the fact that it uses nothing
but what was live in the node that it looked at.
-/

namespace ArticleTree.Stages

open Judgement

/-! ## What the stages look for -/

def isList : Node → Bool :=
  Guard.passes [.elementOf ["ul", "ol"]]

def isFigure : Node → Bool :=
  Guard.passes [.element "figure", .attrOf "typeof" ["mw:Image", "mw:Image/Thumb"]]

def isInlineFigure : Node → Bool :=
  Guard.passes [.element "span", .attr "typeof" "mw:Image"]

def isTable : Node → Bool :=
  Guard.passes [.element "table"]

def isMath : Node → Bool :=
  Guard.passes [.attr "typeof" "mw:Extension/math"]

/-! ## The judgements -/

def judgeNumbered : Judgement := only (fun n => n.kind = .template) mergeNumbered

def judgeLists : Judgement := only isList listOfElement

def judgeFigures : Judgement := only isFigure imageOfFigure

def judgeInlineFigures : Judgement :=
  only isInlineFigure fun _ => .done (.error "Inline images are not allowed")

def judgeTables : Judgement := only isTable tableOfElement

def judgeInlineMath : Judgement := only isMath fun n => .done (formulaOfElement n)

def judgeWrongInlineMath : Judgement := only (fun n => n.kind = .inlineMath) singleExpression

def judgeFragments (options : Options) : Judgement :=
  only (fun n => options.stripFragments && isFragment n) fun _ => .drop

def judgeMacros : Judgement := only (fun n => n.kind = .template) meaningOfMacro

def judgeHeaderAndFooter : Judgement := only isInvocation fun _ => .drop

def judgeKinds : Judgement := only (fun n => n.kind = .element) kindOfElement

def judgeAnchors : Judgement := only (fun n => n.kind = .header) hoistAnchor

theorem onKind_eq (name : String) (kind : Kind) (v : Judgement) :
    Pass.onKind name kind (fun _ n => return v n) =
      pass name (only (fun n => n.kind = kind) v) := by
  refine congrArg (Pass.mk name) (funext fun _ => funext fun n => ?_)
  by_cases h : n.kind = kind <;> simp [only, h]

theorem rules_eq (name : String) (guard : Node → Bool) (v : Judgement) :
    Pass.rules name [⟨guard, fun _ n => return v n⟩] = pass name (only guard v) := by
  refine congrArg (Pass.mk name) (funext fun _ => funext fun n => ?_)
  cases h : guard n <;> simp [only, h]

theorem delete_eq (name : String) (condition : Node → Bool) :
    Pass.delete name condition = pass name (only condition fun _ => .drop) := rfl

theorem walk_lists (ctx : Context) (nodes : Forest) :
    lists.walk ctx nodes = .done (judgeLists.walk nodes) := by
  rw [lists, rules_eq, pass_walk]
  rfl

theorem walk_macros (ctx : Context) (nodes : Forest) :
    macros.walk ctx nodes = .done (judgeMacros.walk nodes) := by
  rw [macros, onKind_eq, pass_walk]
  rfl

theorem walk_anchors (ctx : Context) (nodes : Forest) :
    anchors.walk ctx nodes = .done (judgeAnchors.walk nodes) := by
  rw [anchors, onKind_eq, pass_walk]
  rfl

/-- The forest that the article chain makes. -/
def conversion (options : Options) (nodes : Forest) : Forest :=
  judgeAnchors.walk <| judgeKinds.walk <| judgeHeaderAndFooter.walk <| judgeMacros.walk <|
    (judgeFragments options).walk <| judgeWrongInlineMath.walk <| judgeInlineMath.walk <|
    judgeTables.walk <| judgeInlineFigures.walk <| judgeFigures.walk <| judgeLists.walk <|
    judgeNumbered.walk nodes

/-- The article chain never fails, asks nothing, and does not look at the context. -/
theorem convert_eq (options : Options) (ctx : Context) (nodes : Forest) :
    Article.convert options ctx nodes = .done (conversion options nodes) := by
  have hpasses : (articleChain options).stages =
      [.pass (pass "merge-list-params" judgeNumbered), .pass (pass "lists" judgeLists),
        .pass (pass "figures" judgeFigures), .pass (pass "inline-figures" judgeInlineFigures),
        .pass (pass "tables" judgeTables), .pass (pass "inline-math" judgeInlineMath),
        .pass (pass "wrong-inline-math" judgeWrongInlineMath),
        .pass (pass "transclusion-fragments" (judgeFragments options)),
        .pass (pass "templates" judgeMacros),
        .pass (pass "delete-header-and-footer" judgeHeaderAndFooter),
        .pass (pass "fix-node-types" judgeKinds), .pass (pass "heading-anchors" judgeAnchors)] := by
    simp only [articleChain, numberedParams, lists, figures, inlineFigures, tables, inlineMath,
      wrongInlineMath, fragments, macros, headerAndFooter, kinds, anchors, onKind_eq, rules_eq,
      delete_eq, judgeNumbered, judgeLists, judgeFigures, judgeInlineFigures, judgeTables,
      judgeInlineMath, judgeWrongInlineMath, judgeFragments, judgeMacros, judgeHeaderAndFooter,
      judgeKinds, judgeAnchors, isList, isFigure, isInlineFigure, isTable, isMath]
  simp only [Article.convert, Chain.run, hpasses, Stage.runAll, Stage.run, pass_walk,
    Session.done_bind, Session.pure_eq, conversion]

end ArticleTree.Stages
