/-! # JSON values -/

namespace ArticleTree

/-- A JSON value. The fields of an object keep the order in which they were written, and a
    name may stand there more than once. -/
inductive Json where
  | null
  | bool (value : Bool)
  /-- A number written without fraction and exponent, and of 64 bits at most. -/
  | integer (value : Int)
  /-- Any other number, as it was written. -/
  | real (literal : String)
  | string (value : String)
  | array (items : List Json)
  | object (fields : List (String × Json))
  deriving BEq, Repr

namespace Json

instance : Inhabited Json := ⟨null⟩

def string? : Json → Option String
  | string value => some value
  | _ => none

def bool? : Json → Option Bool
  | bool value => some value
  | _ => none

/-- A number from zero up to a bound, which is not included. -/
def natBelow? (bound : Nat) : Json → Option Nat
  | integer value => if 0 ≤ value ∧ value < bound then some value.toNat else none
  | _ => none

/-- The value of a field; of fields of one name the last counts. -/
def field? (name : String) : Json → Option Json
  | object fields => (fields.reverse.lookup name)
  | _ => none

end Json

/-! ## Records

A value with fixed fields is written as an object, or as an array of its fields in their
order. -/

namespace Record

variable {α : Type}

/-- The fields of an object by the names that are asked for. Other fields are ignored; a
    name that is asked for must not stand there twice. -/
def fromFields? (names : List String) (fields : List (String × α)) :
    Option (List (Option α)) :=
  names.mapM fun name =>
    match fields.filter fun field => field.1 = name with
    | [] => some none
    | [field] => some (some field.2)
    | _ => none

/-- The fields of an array, of which the last ones may be missing. -/
def fromItems? (names : List String) (items : List α) : Option (List (Option α)) :=
  if items.length ≤ names.length then
    some (items.map some ++ List.replicate (names.length - items.length) none)
  else none

end Record

/-- The fields of a value that stands for a record. -/
def Json.record? (names : List String) : Json → Option (List (Option Json))
  | .object fields => Record.fromFields? names fields
  | .array items => Record.fromItems? names items
  | _ => none

end ArticleTree
