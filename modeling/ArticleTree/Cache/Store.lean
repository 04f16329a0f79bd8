import ArticleTree.Failure
import ArticleTree.Json.Printer
import ArticleTree.Json.Written
import ArticleTree.Keyed

/-! # Stores

A store keeps texts by key. It can be written down, and read back later; what is not the
written form of a store is refused.
-/

namespace ArticleTree.Cache

structure Store where
  /-- Keys and texts, by ascending key. -/
  entries : List (String × String)
  deriving DecidableEq, Repr

namespace Store

def empty : Store := ⟨[]⟩

def get? (store : Store) (key : String) : Option String :=
  Keyed.get? key store.entries

/-- Give a key a text; an earlier text is replaced. -/
def put (store : Store) (key value : String) : Store :=
  ⟨Keyed.insert key value store.entries⟩

def size (store : Store) : Nat :=
  store.entries.length

def isEmpty (store : Store) : Bool :=
  store.size == 0

def heading : String := "article tree cache 1\n"

def render (store : Store) : String :=
  heading ++ (Json.object (store.entries.map fun (key, value) => (key, .string value))).compact

def entriesOf? : Json → Option (List (String × String))
  | .object fields => fields.mapM fun (key, value) => do return (key, ← value.string?)
  | _ => none

/-- Read a store. A file with nothing in it is an empty store. -/
def parse? (text : String) : Option Store :=
  if text.isEmpty then some empty
  else do
    let value ← Json.parse? (← Text.withoutStart? heading text)
    return ⟨Keyed.ofList (← entriesOf? value)⟩

/-- Open a store that was written down, if there is one. -/
def openFrom (text : Option String) : Except Failure Store :=
  match text with
  | none => .ok empty
  | some text =>
      match parse? text with
      | some store => .ok store
      | none => .error (.storage "file is not a database")

end Store

end ArticleTree.Cache
