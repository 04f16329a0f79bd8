import ArticleTree.Json.Written
import ArticleTree.Markup.MacroName
import ArticleTree.Pass.Walk

/-! # Recovering macro calls

A renderer expands macros. It marks the first element of an expansion as a transclusion
and keeps the call that was expanded as JSON beside it. That element, with all below it,
becomes a template again. Parameters that hold markup are parsed in turn; what parses
them is given, since it recovers macro calls itself.

Further elements of the same expansion are left as they are.
-/

namespace ArticleTree.Markup

/-- The call of a macro, as a renderer keeps it. -/
structure MacroCall where
  /-- The name of the macro, as it was written. -/
  target : String
  /-- The texts of the parameters, by ascending key. -/
  params : List (String × String)
  deriving DecidableEq, Repr

/-- What can be wrong with the call kept beside an expansion. -/
inductive CallFault where
  | missing
  | notJson
  | noTemplate
  | unexpected
  deriving DecidableEq, Repr

/-- The text that a user sees. Behind `notJson` and `unexpected` a colon and the words of the reader
    of JSON are left out: what is wrong with the text, or with the value. -/
def CallFault.message : CallFault → String
  | missing => "transclusion without data-mw"
  | notJson => "data-mw is not JSON"
  | noTemplate => "data-mw has no parts[0].template"
  | unexpected => "unexpected template call in data-mw"

/-- The template of the first part of an expansion. -/
def firstTemplate? (value : Json) : Option Json := do
  let parts ← value.field? "parts"
  let first ← match parts with
    | .array items => items.head?
    | other => other.field? "0"
  first.field? "template"

/-- A field given once: of fields of one name the last counts. -/
def lastFields (fields : List (String × Json)) : List (String × Json) :=
  Keyed.ofList fields

/-- A record in a value where of fields of one name the last counts. -/
def lastRecord? (names : List String) : Json → Option (List (Option Json))
  | .object fields => Record.fromFields? names (lastFields fields)
  | .array items => Record.fromItems? names items
  | _ => none

/-- A text of markup. -/
def wikitext? (value : Json) : Option String :=
  match lastRecord? ["wt"] value with
  | some [some text] => text.string?
  | _ => none

/-- The texts of parameters. -/
def paramTexts? : Json → Option (List (String × String))
  | .object fields =>
      (lastFields fields).mapM fun (key, value) => do return (key, ← wikitext? value)
  | _ => none

/-- The call that a value stands for. -/
def macroCall? (template : Json) : Option MacroCall := do
  match ← lastRecord? ["target", "params"] template with
  | [some target, none] => return ⟨← wikitext? target, []⟩
  | [some target, some params] => return ⟨← wikitext? target, ← paramTexts? params⟩
  | _ => none

/-- Read the call kept beside an expansion. -/
def readCall (kept : Option String) : Except CallFault MacroCall :=
  match kept with
  | none => .error .missing
  | some text =>
      match Json.parse? text with
      | none => .error .notJson
      | some value =>
          match firstTemplate? value with
          | none => .error .noTemplate
          | some template =>
              match macroCall? template with
              | none => .error .unexpected
              | some call => .ok call

/-- The parameters of a call: those that hold markup are parsed, in the order of their
    keys. -/
def readParams (parse : String → Session Forest) (name : String) :
    List (String × String) → Session (List (String × Param))
  | [] => return []
  | (key, text) :: rest => do
      let value ←
        if isContentParam name key then Param.content <$> parse text
        else pure (Param.text text)
      return (key, value) :: (← readParams parse name rest)

/-- The template of a call. -/
def MacroCall.template (parse : String → Session Forest) (call : MacroCall) : Session Node := do
  let name := macroName call.target
  return .template name (← readParams parse name call.params)

/-- The node is the first of an expansion. -/
def isTransclusion (node : Node) : Bool :=
  Guard.passes [.kind .element, .attr "typeof" "mw:Transclusion"] node

/-- Put the call in the place of an expansion. -/
def recoverCall (parse : String → Session Forest) (node : Node) : Session Node :=
  match readCall (node.attr? "data-mw") with
  | .error fault => .fail (.metadata fault.message)
  | .ok call => call.template parse

/-- Every expansion becomes a template. -/
def transclusions (parse : String → Session Forest) : Pass :=
  .rules "template-deinclusion"
    [⟨isTransclusion, fun _ node => return .done (← recoverCall parse node)⟩]

end ArticleTree.Markup
