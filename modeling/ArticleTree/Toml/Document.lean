import ArticleTree.Toml.Grammar

/-! # TOML documents

The tables that the statements of a document make. A table is made in one place: a dotted
key adds to a table that dotted keys made, or passes through one that a header implied,
and a header makes a table that is new or was only implied.
-/

namespace ArticleTree.Toml

/-- Change what stands under a key. An entry that is new goes to the end. -/
def update (key : String) (change : Option Toml → Option Toml) : Entries → Option Entries
  | [] => (change none).map fun value => [(key, value)]
  | (k, v) :: rest =>
      if k = key then (change (some v)).map fun value => (k, value) :: rest
      else (update key change rest).map ((k, v) :: ·)

/-- Put a value under a key that is new. -/
def putNew (key : String) (value : Toml) : Entries → Option Entries :=
  update key fun
    | none => some value
    | some _ => none

def put (key : String) (value : Toml) : (before : List String) → Entries → Option Entries
  | [] => putNew key value
  | step :: before =>
      update step fun
        | none => (put key value before []).map (.table .dotted)
        | some (.table made entries) =>
            if made = .dotted || (made = .implied && !before.isEmpty) then
              (put key value before entries).map (.table made)
            else none
        | some (.tables earlier last) =>
            if before.isEmpty then none else (put key value before last).map (.tables earlier)
        | some _ => none

/-- Change the table under a path of keys. Tables on the way that are missing are implied,
    and of an array the last table is meant. -/
def within (change : Entries → Option Entries) : (path : List String) → Entries → Option Entries
  | [] => change
  | step :: path =>
      update step fun
        | none => (within change path []).map (.table .implied)
        | some (.table made entries) =>
            if made = .inline then none else (within change path entries).map (.table made)
        | some (.tables earlier last) => (within change path last).map (.tables earlier)
        | some _ => none

/-- Make a table under a key, or fill the one that was implied. -/
def openTable (fill : Entries → Option Entries) (key : String) : Entries → Option Entries :=
  update key fun
    | none => (fill []).map (.table .header)
    | some (.table .implied entries) => (fill entries).map (.table .header)
    | some _ => none

/-- Make one more table of the array under a key. -/
def addTable (fill : Entries → Option Entries) (key : String) : Entries → Option Entries :=
  update key fun
    | none => (fill []).map (.tables [])
    | some (.tables earlier last) => (fill []).map (.tables (earlier ++ [last]))
    | some _ => none

namespace Written

mutual

def value? : Written → Option Toml
  | scalar value => some value
  | array items => (values? items).map .array
  | braces entries => (fill? entries []).map (.table .inline)

def values? : List Written → Option (List Toml)
  | [] => some []
  | item :: items => do return (← item.value?) :: (← values? items)

/-- The table with the entries put into it one after the other. -/
def fill? : List (KeyPath × Written) → Entries → Option Entries
  | [], filled => some filled
  | (key, value) :: entries, filled => do
      fill? entries (← put key.last (← value.value?) key.before filled)

end

end Written

/-- The entries up to the first header, and what follows each header. -/
def sections : List Statement →
    List (KeyPath × Written) × List (Statement × List (KeyPath × Written))
  | [] => ([], [])
  | .entry key value :: rest =>
      let (entries, others) := sections rest
      ((key, value) :: entries, others)
  | header :: rest =>
      let (entries, others) := sections rest
      ([], (header, entries) :: others)

/-- Add what follows a header to a document. -/
def addSection (header : Statement) (entries : List (KeyPath × Written)) :
    Entries → Option Entries :=
  let fill := Written.fill? entries
  match header with
  | .table key => within (openTable fill key.last) key.before
  | .element key => within (addTable fill key.last) key.before
  | .entry _ _ => fill

def parse? (text : String) : Option Entries := do
  let (entries, others) := sections (← statementsOf? text)
  let first ← Written.fill? entries []
  others.foldlM (fun made (header, entries) => addSection header entries made) first

end ArticleTree.Toml
