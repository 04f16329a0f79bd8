import ArticleTree.Proofs.Markup.KeptCalls
import ArticleTree.Proofs.Markup.Recovered
import ArticleTree.Proofs.Session.InOrder

/-! # Macro calls that are put back

Putting a call back depends on the call alone. Those of its parameters that hold markup are parsed,
one after the other and in the order of their keys, and the first failure ends the run.
-/

namespace ArticleTree.Markup

open Session (Collects collects_done)

/-- The parameters of a template, by the texts that they were, and by what those of them are parsed
    to that hold markup. -/
inductive ReadAs (name : String) :
    List (String × String) → List Forest → List (String × Param) → Prop where
  | nil : ReadAs name [] [] []
  | raw {key text : String} {given : List (String × String)} {contents : List Forest}
      {params : List (String × Param)} : isContentParam name key = false →
      ReadAs name given contents params →
      ReadAs name ((key, text) :: given) contents ((key, .text text) :: params)
  | parsed {key text : String} {given : List (String × String)} {content : Forest}
      {contents : List Forest} {params : List (String × Param)} : isContentParam name key = true →
      ReadAs name given contents params →
      ReadAs name ((key, text) :: given) (content :: contents) ((key, .content content) :: params)

section

variable {σ : Type} {service : Call → StateM σ Answer} {parse : String → Session Forest}

/-- The session makes the template of the call. What happens on the way is that the parameters that
    hold markup are parsed, each once, one after the other. -/
def PutsBackCall (service : Call → StateM σ Answer) (parse : String → Session Forest)
    (call : MacroCall) (s : Session Forest) : Prop :=
  let name := macroName call.target
  s.Collects service (fun param => parse param.2)
    (call.params.filter fun param => isContentParam name param.1) fun contents nodes =>
      ∃ params, ReadAs name call.params contents params ∧ nodes = [.template name params]

theorem collects_readParams (name : String) (given : List (String × String)) :
    (readParams parse name given).Collects service (fun param => parse param.2)
      (given.filter fun param => isContentParam name param.1) (ReadAs name given) := by
  induction given with
  | nil => exact collects_done .nil
  | cons param given ih =>
      obtain ⟨key, text⟩ := param
      rw [readParams]
      cases hkey : isContentParam name key with
      | false =>
          rw [List.filter_cons_of_neg (by simp [hkey])]
          simp only [Bool.false_eq_true, if_false, pure_bind]
          rw [← map_eq_pure_bind]
          exact ih.map fun _ _ hparams => .raw hkey hparams
      | true =>
          rw [List.filter_cons_of_pos (by simp [hkey])]
          simp only [if_true, bind_map_left]
          refine Collects.cons fun content => ?_
          rw [← map_eq_pure_bind]
          exact ih.map fun _ _ hparams => .parsed hkey hparams

end

/-- An expansion gives its place to the call that is kept beside it. Nothing else about it counts:
    two expansions that keep the same are asked for alike, and become the same. -/
theorem putsBackCall_transclusions {σ : Type} (service : Call → StateM σ Answer) (ctx : Context)
    (depth : Nat) (n : Node) (hkind : n.kind = .element)
    (htypeof : n.attr? "typeof" = some "mw:Transclusion") :
    (∀ call, Keeps (n.attr? "data-mw") call →
      PutsBackCall service (parseWithin ctx depth) call
        ((transclusions (parseWithin ctx depth)).walk ctx [n])) ∧
    ∀ m : Node, m.kind = .element → m.attr? "typeof" = some "mw:Transclusion" →
      m.attr? "data-mw" = n.attr? "data-mw" →
        (transclusions (parseWithin ctx depth)).walk ctx [m] =
          (transclusions (parseWithin ctx depth)).walk ctx [n] := by
  have hwalk (m : Node) (hkind : m.kind = .element)
      (htypeof : m.attr? "typeof" = some "mw:Transclusion") :
      (transclusions (parseWithin ctx depth)).walk ctx [m] = do
        return [← recoverCall (parseWithin ctx depth) m] := by
    rw [transclusions, ← Pass.replacing,
      Pass.replacing_singleton (isTransclusion_iff.2 ⟨hkind, htypeof⟩)]
  constructor
  · intro call hkeeps
    rw [hwalk n hkind htypeof, recoverCall, readCall_eq_ok.2 hkeeps]
    simp only [MacroCall.template, bind_assoc, pure_bind]
    rw [← map_eq_pure_bind]
    exact (collects_readParams (macroName call.target) call.params).map
      fun _ params hparams => ⟨params, hparams, rfl⟩
  · intro m hkind' htypeof' hkept
    rw [hwalk n hkind htypeof, hwalk m hkind' htypeof', recoverCall, recoverCall, hkept]

/-- The expansion of a macro with a parameter that holds markup and one that does not. -/
def expandedWarning (name : String) (children : Forest) : Node :=
  .element name (.ofList [("typeof", "mw:Transclusion"),
    ("data-mw", "\x7b\"parts\":[\x7b\"template\":\x7b\"target\":\x7b\"wt\":\"Warnung\"\x7d," ++
      "\"params\":\x7b\"b\":\x7b\"wt\":\"c\"\x7d,\"1\":\x7b\"wt\":\"a\"\x7d\x7d\x7d\x7d]\x7d")])
    children

/-- A service that renders every text to a paragraph of it. -/
def paragraphing : Call → StateM Unit Answer
  | .renderHtml _ text => return .ok ("<p>" ++ text ++ "</p>")
  | .getContent _ => return .ok ""

theorem putsBackCall_transclusions_expandedWarning :
    Keeps ((expandedWarning "p" []).attr? "data-mw") ⟨"Warnung", [("1", "a"), ("b", "c")]⟩ ∧
      PutsBackCall paragraphing (parseWithin ⟨"Title", 1⟩ 1) ⟨"Warnung", [("1", "a"), ("b", "c")]⟩
        ((transclusions (parseWithin ⟨"Title", 1⟩ 1)).walk ⟨"Title", 1⟩
          [expandedWarning "p" []]) ∧
      (transclusions (parseWithin ⟨"Title", 1⟩ 1)).walk ⟨"Title", 1⟩
          [expandedWarning "div" [.text "x"]] =
        (transclusions (parseWithin ⟨"Title", 1⟩ 1)).walk ⟨"Title", 1⟩ [expandedWarning "p" []] ∧
      (((transclusions (parseWithin ⟨"Title", 1⟩ 1)).walk ⟨"Title", 1⟩
        [expandedWarning "p" []]).observe paragraphing ()).calls = [.renderHtml "Title" "a"] := by
  have hkeeps : Keeps ((expandedWarning "p" []).attr? "data-mw")
      ⟨"Warnung", [("1", "a"), ("b", "c")]⟩ := by
    refine readCall_eq_ok.1 ?_
    decide +kernel
  obtain ⟨hcall, hsame⟩ := putsBackCall_transclusions paragraphing ⟨"Title", 1⟩ 1
    (expandedWarning "p" []) rfl rfl
  refine ⟨hkeeps, hcall _ hkeeps, hsame _ rfl rfl rfl, by decide +kernel⟩

end ArticleTree.Markup
