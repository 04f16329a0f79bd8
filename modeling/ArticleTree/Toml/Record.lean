import ArticleTree.Toml.Value

/-! # Records in TOML

A value with fixed fields is written as a table, or as an array of its fields in their
order.
-/

namespace ArticleTree.Toml

/-- The values of a record's fields. A table gives them by their names and an array by
    their order; an array may also be shorter or longer than the record. A date is a record
    of other fields. -/
def fieldsOf? (names : List String) : Toml → Option (List (Option Toml))
  | table _ entries => some (names.map fun name => entries.lookup name)
  | array items => some ((List.range names.length).map fun i => items[i]?)
  | tables earlier last =>
      let items := (earlier ++ [last]).map (table .header)
      some ((List.range names.length).map fun i => items[i]?)
  | dateTime _ => some (names.map fun _ => none)
  | _ => none

def asString? : Toml → Option String
  | string value => some value
  | _ => none

def asBoolean? : Toml → Option Bool
  | boolean value => some value
  | _ => none

def asNat? : Toml → Option Nat
  | integer value => if 0 ≤ value then some value.toNat else none
  | _ => none

/-- What a field holds, or the default if it is missing. -/
def fieldOr {α : Type} (read : Toml → Option α) (default : α) (field : Option Toml) : Option α :=
  match field with
  | none => some default
  | some value => read value

end ArticleTree.Toml
