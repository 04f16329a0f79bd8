import ArticleTree.Toml.Scalar

/-! # The grammar of TOML

A document is a list of statements: headers of tables and entries. The grammar says what
is written; which statements go together is a question of its own.
-/

namespace ArticleTree.Toml

/-- Keys with dots between them, the last one apart. -/
structure KeyPath where
  before : List String
  last : String
  deriving DecidableEq, Repr

inductive Written where
  | scalar (value : Toml)
  | array (items : List Written)
  /-- Entries between braces. -/
  | braces (entries : List (KeyPath × Written))

inductive Statement where
  | entry (key : KeyPath) (value : Written)
  /-- The header of a table. -/
  | table (key : KeyPath)
  /-- The header of one more table of an array. -/
  | element (key : KeyPath)

/-! ## Keys -/

/-- The character may stand in a key without quotes. -/
def isBare (c : Char) : Bool :=
  c.isAlphanum || c == '_' || c == '-'

def key? (cs : List Char) : Option (String × List Char) :=
  match cs.span isBare with
  | ([], _) => lineString? cs
  | (found, rest) => some (.ofList found, rest)

/-- Keys with dots between them, and the rest; `most` keys at most. -/
def keys? : (most : Nat) → List Char → Option (KeyPath × List Char)
  | 0, _ => none
  | most + 1, cs => do
      let (key, rest) ← key? (skipSpace cs)
      match skipSpace rest with
      | '.' :: rest =>
          let (path, rest) ← keys? most rest
          return (⟨key :: path.before, path.last⟩, rest)
      | rest => return (⟨[], key⟩, rest)

/-- So many keys may be put together with dots. -/
def maxKeys : Nat := 79

/-- Arrays and braces may be nested so deeply. -/
def maxNesting : Nat := 79

/-! ## Values -/

mutual

/-- A value that is nested no deeper than `room`, and the rest. Each step reads at least
    one character, so as many steps as there are characters are enough. -/
def value? (room : Nat) : (steps : Nat) → List Char → Option (Written × List Char)
  | 0, _ => none
  | steps + 1, cs =>
      match room, cs with
      | room + 1, '[' :: rest =>
          match skipVoid false rest with
          | ']' :: rest => some (.array [], rest)
          | rest => (items? room steps rest).map fun (items, rest) => (.array items, rest)
      | room + 1, '\x7b' :: rest =>
          match skipSpace rest with
          | '\x7d' :: rest => some (.braces [], rest)
          | rest => (entries? room steps rest).map fun (entries, rest) => (.braces entries, rest)
      | _, cs => (scalar? cs).map fun (value, rest) => (.scalar value, rest)

/-- The items of an array, its closing bracket, and the rest. A comma may follow the last
    item. -/
def items? (room : Nat) : (steps : Nat) → List Char → Option (List Written × List Char)
  | 0, _ => none
  | steps + 1, cs => do
      let (item, rest) ← value? room steps (skipVoid false cs)
      match skipVoid false rest with
      | ',' :: rest =>
          match skipVoid false rest with
          | ']' :: rest => return ([item], rest)
          | rest =>
              let (items, rest) ← items? room steps rest
              return (item :: items, rest)
      | ']' :: rest => return ([item], rest)
      | _ => none

/-- The entries between braces, the closing brace, and the rest. -/
def entries? (room : Nat) : (steps : Nat) → List Char →
    Option (List (KeyPath × Written) × List Char)
  | 0, _ => none
  | steps + 1, cs => do
      let (key, rest) ← keys? maxKeys cs
      let rest ← after? '=' rest
      let (value, rest) ← value? room steps (skipSpace rest)
      match skipSpace rest with
      | ',' :: rest =>
          let (entries, rest) ← entries? room steps rest
          return ((key, value) :: entries, rest)
      | '\x7d' :: rest => return ([(key, value)], rest)
      | _ => none

end

/-! ## Statements -/

/-- A statement without the end of its line, and the rest. -/
def statement? (cs : List Char) : Option (Statement × List Char) :=
  match cs with
  | '[' :: '[' :: rest => do
      let (key, rest) ← keys? maxKeys rest
      return (.element key, ← Text.dropStart? [']', ']'] rest)
  | '[' :: rest => do
      let (key, rest) ← keys? maxKeys rest
      return (.table key, ← after? ']' rest)
  | _ => do
      let (key, rest) ← keys? maxKeys cs
      let rest ← after? '=' rest
      let (value, rest) ← value? maxNesting (2 * rest.length + 1) (skipSpace rest)
      return (.entry key value, rest)

/-- The statements of a document. Each step reads at least one character, so as many steps
    as there are characters are enough. -/
def statements? : (steps : Nat) → List Char → Option (List Statement)
  | 0, _ => none
  | steps + 1, cs =>
      match skipVoid false cs with
      | [] => some []
      | cs => do
          let (statement, rest) ← statement? cs
          return statement :: (← statements? steps (← lineEnd? rest))

/-- The statements of a text. It may begin with a byte order mark. -/
def statementsOf? (text : String) : Option (List Statement) :=
  let cs := text.toList
  let cs := (after? '\uFEFF' cs).getD cs
  statements? (cs.length + 1) cs

end ArticleTree.Toml
