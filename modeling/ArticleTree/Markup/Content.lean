import ArticleTree.Html.Parse
import ArticleTree.Markup.Gallery
import ArticleTree.Markup.Transclusion
import ArticleTree.Pass.Chain

/-! # Parsing markup

Markup is rendered by the content service. The tree of the rendering gets its macro calls
and galleries back, and markup inside those is parsed in the same way. How deep this may
go is limited, for a service may answer with markup that never comes to an end.
-/

namespace ArticleTree

/-- The rendering of markup as a part of an article. -/
def Session.renderHtml (title text : String) : Session String :=
  .request (.renderHtml title text)

/-- The source of an article. -/
def Session.getContent (title : String) : Session String :=
  .request (.getContent title)

namespace Markup

/-- The stages that recover macro calls and galleries, given what parses the markup in
    them. -/
def chain (parse : String → Session Forest) : Chain :=
  ⟨"markup", [.pass (transclusions parse), .pass (galleries parse)]⟩

theorem chain_run (parse : String → Session Forest) (ctx : Context) (nodes : Forest) :
    (chain parse).run ctx nodes =
      (transclusions parse).walk ctx nodes >>= (galleries parse).walk ctx := by
  simp only [chain, Chain.run, Stage.runAll, Stage.run, bind_pure]

/-- Parse HTML, given what parses the markup nested in it. -/
def parseRenderedWith (parse : String → Session Forest) (ctx : Context) (html : String) :
    Session Forest := do
  (chain parse).run ctx (← .ofExcept (Html.parse html))

/-- Parse markup that may be nested `depth` levels deep. -/
def parseWithin (ctx : Context) : (depth : Nat) → (text : String) → Session Forest
  | 0, _ => .tooDeep
  | depth + 1, text => do
      parseRenderedWith (parseWithin ctx depth) ctx (← .renderHtml ctx.title text)

/-- Parse markup. -/
def parseContent (ctx : Context) (text : String) : Session Forest :=
  parseWithin ctx ctx.depth text

/-- Parse HTML that is rendered already. -/
def parseRendered (ctx : Context) (html : String) : Session Forest :=
  parseRenderedWith (parseContent ctx) ctx html

/-- Parse markup that must render to one paragraph, and return its children. -/
def parseInlineContent (ctx : Context) (text : String) : Session Forest :=
  inlineContent (parseContent ctx) text

end Markup

end ArticleTree
