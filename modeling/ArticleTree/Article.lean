import ArticleTree.Markup.Content
import ArticleTree.Stages.Anchors
import ArticleTree.Stages.Blocks
import ArticleTree.Stages.Formulas
import ArticleTree.Stages.Kinds
import ArticleTree.Stages.Macros
import ArticleTree.Stages.NumberedParams

/-! # Converting articles

Markup is rendered and parsed, and then a fixed chain of stages turns what came out into
document nodes. Their order matters: elements that no stage has claimed are seen to near
the end, and anchors are looked for when headings are there.
-/

namespace ArticleTree

/-- How articles are converted. -/
structure Options where
  /-- Take out what is left of a macro's expansion after its first element. -/
  stripFragments : Bool := false
  deriving DecidableEq, Repr

/-- The node is an element of a macro's expansion after the first. -/
def isFragment (node : Node) : Bool :=
  Guard.passes [.kind .element, .hasAttr "about"] node

/-- Elements that an expansion left behind are taken out, if that is wanted. -/
def fragments (options : Options) : Pass :=
  .delete "transclusion-fragments" fun node => options.stripFragments && isFragment node

/-- The stages that make an article of parsed markup. -/
def articleChain (options : Options) : Chain where
  name := "article-content"
  stages :=
    [.pass Stages.numberedParams, .pass Stages.lists, .pass Stages.figures,
      .pass Stages.inlineFigures, .pass Stages.tables, .pass Stages.inlineMath,
      .pass Stages.wrongInlineMath, .pass (fragments options), .pass Stages.macros,
      .pass Stages.headerAndFooter, .pass Stages.kinds, .pass Stages.anchors]

namespace Article

/-- Run the stages over parsed markup. -/
def convert (options : Options) (ctx : Context) (nodes : Forest) : Session Forest :=
  (articleChain options).run ctx nodes

/-- Convert the markup of an article. -/
def parse (options : Options) (ctx : Context) (text : String) : Session Forest := do
  convert options ctx (← Markup.parseContent ctx text)

/-- Convert an article that is rendered already. -/
def parseRendered (options : Options) (ctx : Context) (html : String) : Session Forest := do
  convert options ctx (← Markup.parseRendered ctx html)

/-- Fetch an article and convert it. -/
def load (options : Options) (ctx : Context) : Session Article := do
  let text ← Session.getContent ctx.title
  return ⟨ctx.title, ← parse options ctx text⟩

end Article

end ArticleTree
