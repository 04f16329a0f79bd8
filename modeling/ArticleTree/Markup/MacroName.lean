import ArticleTree.Text.Affix
import ArticleTree.Text.Blank

/-! # Macros that the converter knows

Which parameters of a macro hold markup rather than plain values, and which families of
numbered parameters belong together.
-/

namespace ArticleTree.Markup

/-- The namespace that a renderer puts in front of the name of every macro. -/
def macroNamespace : String := ":Mathe für Nicht-Freaks: Vorlage:"

/-- The name of a macro, from the target of its call. -/
def macroName (target : String) : String :=
  Text.withoutStart macroNamespace (Text.trim target)

/-- Which parameters of a macro hold markup. -/
inductive ContentParams where
  | keys (names : List String)
  /-- All parameters whose key begins so. -/
  | family (start : String)
  deriving DecidableEq, Repr

/-- The parameter is one of them. -/
def ContentParams.includes : ContentParams → String → Bool
  | keys names, key => names.contains key
  | family start, key => Text.beginsWith start key

/-- The macros with parameters that hold markup. -/
def contentParams : List (String × ContentParams) :=
  [("Definition", .keys ["definition"]),
    ("Warnung", .keys ["1"]),
    ("Aufgabe", .keys ["aufgabe", "lösung", "beweis"]),
    ("Liste", .family "item")]

/-- The macros with numbered parameters, and how the keys of each family begin. -/
def numberedFamilies : List (String × List String) :=
  [("Liste", ["item"])]

/-- The parameter of the macro holds markup. -/
def isContentParam (name key : String) : Bool :=
  (contentParams.lookup name).any fun params => params.includes key

/-- How the keys of the macro's numbered parameters begin. -/
def familiesOf (name : String) : List String :=
  (numberedFamilies.lookup name).getD []

end ArticleTree.Markup
