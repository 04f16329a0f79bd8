import ArticleTree.Keyed

/-! # Tokens of HTML -/

namespace ArticleTree.Html

inductive Token where
  /-- Character data, its character references resolved. -/
  | text (data : String)
  | startTag (name : String) (attrs : Attributes) (selfClosing : Bool)
  | endTag (name : String)
  | comment
  | doctype
  /-- A note that the text was not well written at this place. -/
  | fault
  deriving DecidableEq

end ArticleTree.Html
