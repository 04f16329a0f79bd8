/-! # TOML values -/

namespace ArticleTree

namespace Toml

/-- How a table came to be, which decides where it may still grow. -/
inductive Made where
  /-- By a header of its own. -/
  | header
  /-- By the header of a table inside it. -/
  | implied
  /-- By a dotted key. -/
  | dotted
  /-- Between braces. -/
  | inline
  deriving DecidableEq, Repr

end Toml

inductive Toml where
  | string (value : String)
  | integer (value : Int)
  /-- A floating point number, as it was written. -/
  | float (literal : String)
  | boolean (value : Bool)
  /-- A date, a time or both, as it was written. -/
  | dateTime (literal : String)
  | array (items : List Toml)
  | table (made : Toml.Made) (entries : List (String × Toml))
  /-- An array of tables that headers made, apart from its last table and that. -/
  | tables (earlier : List (List (String × Toml))) (last : List (String × Toml))
  deriving Repr

namespace Toml

abbrev Entries := List (String × Toml)

end Toml

end ArticleTree
