import ArticleTree.Text.Quoted

/-! # Failures

What ends the conversion of an article. Problems that a reader of the article can be
shown are no failures: they become visible nodes of the tree.
-/

namespace ArticleTree

inductive Failure where
  /-- The settings are unusable. -/
  | config (message : String)
  /-- The wiki did not answer as it should. -/
  | network (message : String)
  /-- The wiki has no such article. -/
  | notFound (title : String)
  /-- The markup is not balanced. -/
  | markup (message : String)
  /-- The call kept beside a macro's expansion cannot be read. -/
  | metadata (message : String)
  /-- A node has not the shape that its place asks for. -/
  | structural (message : String)
  /-- The cache cannot be used. -/
  | storage (message : String)
  /-- The operating system refused something about a file. -/
  | io (path reason : String)
  deriving DecidableEq, Repr

namespace Failure

/-- The text that a user sees. It stops where the words of others would begin: what a reader of JSON
    or of settings, the transport of a request, or the keeper of the cache says is wrong. -/
def message : Failure → String
  | config message => "config error: " ++ message
  | network message => "network error: " ++ message
  | notFound title => "article not found: " ++ title
  | markup message => "malformed markup: " ++ message
  | metadata message => "malformed template metadata: " ++ message
  | structural message => "structural error: " ++ message
  | storage message => "storage error: " ++ message
  | io path reason => "I/O error at " ++ Text.quote path ++ ": " ++ reason

/-- The failure is about the shape of a node. -/
def isStructural : Failure → Bool
  | structural _ => true
  | _ => false

end Failure

end ArticleTree
