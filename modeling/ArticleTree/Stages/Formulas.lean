import ArticleTree.Json.Written
import ArticleTree.Pass.Walk
import ArticleTree.Text.Affix
import ArticleTree.Text.Blank

/-! # Formulas

Formulas inside a line are marked by the renderer, which keeps their source as JSON.
Formulas on a line of their own are the parameter of a macro, wrapped in a tag.
-/

namespace ArticleTree.Stages

/-- The line up of an aligned formula begins so. -/
def alignBegin : String := "\\begin\x7balign\x7d"

/-- The line up of an aligned formula ends so. -/
def alignEnd : String := "\\end\x7balign\x7d"

/-! ## Inside a line -/

/-- The source of a formula, as a renderer keeps it. -/
def formulaSource? (written : Json.Written) : Option String := do
  match ← written.record? ["body"] with
  | [some body] =>
      match ← body.record? ["extsrc"] with
      | [some text] => text.text?
      | _ => none
  | _ => none

/-- Read the source kept beside a formula. -/
def readFormula? (kept : Option String) : Option String := do
  formulaSource? (← Json.Written.parse? (← kept))

/-- What stands for an element that the renderer made of a formula. -/
def formulaOfElement (node : Node) : Node :=
  match readFormula? (node.attr? "data-mw") with
  | some formula => .inlineMath formula
  | none => .error "Math metadata is malformed"

/-- Rendered formulas become formulas. -/
def inlineMath : Pass :=
  .rules "inline-math"
    [⟨Guard.passes [.attr "typeof" "mw:Extension/math"],
      fun _ node => return .done (formulaOfElement node)⟩]

/-- What becomes of a formula inside a line: it must be a single expression. -/
def singleExpression : (node : Node) → Verdict node
  | .inlineMath formula =>
      if Text.contains alignBegin formula then
        .done (.error (alignBegin ++ " not allowed in inline math"))
      else .descend
  | _ => .descend

/-- Aligned formulas inside a line are errors. -/
def wrongInlineMath : Pass :=
  .onKind "wrong-inline-math" .inlineMath fun _ node => return singleExpression node

/-! ## On a line of its own -/

/-- The characters before the last occurrence of `mark`. -/
def beforeLast? (mark : List Char) : List Char → Option (List Char)
  | [] => if mark.isEmpty then some [] else none
  | c :: cs =>
      match beforeLast? mark cs with
      | some before => some (c :: before)
      | none => if (Text.dropStart? mark (c :: cs)).isSome then some [] else none

/-- What the tag at the beginning of a text wraps, up to the last tag that ends it. -/
def wrapped? (text : String) : Option String := do
  let inside ← Text.dropStart? "<math>".toList text.toList
  return .ofList (← beforeLast? "</math>".toList inside)

/-- The formula of an argument: what its tag wraps, without the line up around it. -/
def displayFormula? (argument : String) : Option String := do
  let formula := Text.trim (← wrapped? (Text.trim argument))
  return Text.trim (Text.withoutEnding alignEnd (Text.withoutStart alignBegin formula))

end ArticleTree.Stages
