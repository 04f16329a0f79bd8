import ArticleTree.Proofs.Stages.Confined
import ArticleTree.Proofs.Text.Affix

/-! # What no article has in it

Each shape that the article chain takes away is taken away by one stage, and no later stage
brings it back: what a stage puts in the place of a node is of few kinds, and below it stands
only what stood below the node.
-/

namespace ArticleTree

/-- If the node is a macro, its name passes the test. -/
def NameIs (test : String → Prop) (n : Node) : Prop :=
  ∀ name params, n = .template name params → test name

/-- If the node is a formula inside a line, the formula passes the test. -/
def FormulaIs (test : String → Prop) (n : Node) : Prop :=
  ∀ formula, n = .inlineMath formula → test formula

/-- If the node is a heading, its depth passes the test. -/
def DepthIs (test : UInt8 → Prop) (n : Node) : Prop :=
  ∀ depth anchor children, n = .header depth anchor children → test depth

/-- The node has none of the shapes that stand for something else in an article. -/
structure Settled (n : Node) : Prop where
  element : n.kind ≠ .element
  meaning : NameIs (fun name => name ≠ "Liste" ∧ name ≠ "Formel") n
  invocation : NameIs (fun name => ¬ "#invoke:".toList <+: name.toList) n
  formula : FormulaIs (fun formula => ¬ "\\begin\x7balign\x7d".toList <:+: formula.toList) n

namespace Judgement

variable {test : String → Prop}

theorem concerns_kind (kind : Kind) : Concerns kind fun n => n.kind ≠ kind where
  others _ hn := hn
  refill n given hn := by rwa [n.kind_refill]

theorem concerns_nameIs : Concerns .template (NameIs test) where
  others n hn := by
    intro name params heq
    exact absurd (heq ▸ rfl) hn
  refill n given hn := by
    cases n with
    | template name params =>
        intro name' params' heq
        cases heq
        exact hn name params rfl
    | _ =>
        intro _ _ heq
        cases heq

theorem concerns_formulaIs : Concerns .inlineMath (FormulaIs test) where
  others n hn := by
    intro formula heq
    exact absurd (heq ▸ rfl) hn
  refill n given hn := by
    cases n with
    | inlineMath formula => exact hn
    | _ =>
        intro _ heq
        cases heq

theorem concerns_depthIs {test : UInt8 → Prop} : Concerns .header (DepthIs test) where
  others n hn := by
    intro depth anchor children heq
    exact absurd (heq ▸ rfl) hn
  refill n given hn := by
    cases n with
    | header depth anchor children =>
        intro depth' anchor' children' heq
        cases heq
        exact hn depth anchor children rfl
    | _ =>
        intro _ _ _ heq
        cases heq

end Judgement

namespace Stages

open Judgement

variable {options : Options} {p : Node → Prop} {kind : Kind} {nodes : Forest}

/-! ## Stage by stage -/

/-- The two last stages keep what concerns a kind that they do not make. -/
theorem last_keep (hp : Concerns kind p) (hkind : kind ∉ .text :: elementKinds)
    (h : Everywhere p nodes) : Everywhere p (judgeAnchors.walk (judgeKinds.walk nodes)) := by
  have hanchors : kind ∉ [.text, .header] := by
    intro hmem
    refine hkind (List.mem_cons.2 ?_)
    rcases List.mem_cons.1 hmem with rfl | hmem
    · exact .inl rfl
    · exact .inr (List.mem_singleton.1 hmem ▸ by decide)
  refine turns_judgeAnchors.keeps confined_judgeAnchors hp hanchors ?_
  exact turns_judgeKinds.keeps confined_judgeKinds hp hkind h

private theorem everywhere_true (nodes : Forest) : Everywhere (fun _ => True) nodes :=
  fun _ _ => trivial

theorem conversion_formula : Everywhere
    (FormulaIs fun formula => ¬ "\\begin\x7balign\x7d".toList <:+: formula.toList)
    (conversion options nodes) := by
  unfold conversion
  generalize judgeInlineMath.walk _ = given
  refine last_keep concerns_formulaIs (by decide) ?_
  refine (turns_only_drop _).keeps (confined_only_drop _) concerns_formulaIs (by decide) ?_
  refine turns_judgeMacros.keeps confined_judgeMacros concerns_formulaIs (by decide) ?_
  refine (turns_only_drop _).keeps (confined_only_drop _) concerns_formulaIs (by decide) ?_
  refine concerns_formulaIs.brought confined_judgeWrongInlineMath leavesBare_judgeWrongInlineMath
    (fun _ => trivial) ?_ (everywhere_true given)
  intro n other _ h
  rcases result_judgeWrongInlineMath h with ⟨rfl, hformula⟩ | ⟨message, rfl⟩
  · intro formula heq hinfix
    have hcontains : Text.contains alignBegin formula = true := Text.contains_iff.2 hinfix
    rw [hformula formula heq] at hcontains
    cases hcontains
  · intro formula heq
    cases heq

theorem conversion_meaning : Everywhere
    (NameIs fun name => name ≠ "Liste" ∧ name ≠ "Formel") (conversion options nodes) := by
  unfold conversion
  generalize (judgeFragments options).walk _ = given
  refine last_keep concerns_nameIs (by decide) ?_
  refine (turns_only_drop _).keeps (confined_only_drop _) concerns_nameIs (by decide) ?_
  refine concerns_nameIs.brought confined_judgeMacros leavesBare_judgeMacros
    (fun _ => trivial) ?_ (everywhere_true given)
  intro n other _ h
  rcases result_judgeMacros h with ⟨rfl, hname⟩ | hkind
  · exact hname
  · refine concerns_nameIs.others other ?_
    intro heq
    simp [heq] at hkind

theorem conversion_invocation : Everywhere
    (NameIs fun name => ¬ "#invoke:".toList <+: name.toList) (conversion options nodes) := by
  unfold conversion
  generalize judgeMacros.walk _ = given
  refine last_keep concerns_nameIs (by decide) ?_
  refine concerns_nameIs.brought (confined_only_drop _) (leavesBare_only_drop _)
    (fun _ => trivial) ?_ (everywhere_true given)
  intro n other _ h
  obtain ⟨rfl, hinvocation⟩ := result_only_drop h
  intro name params heq hprefix
  rw [heq, isInvocation, invocation, Text.beginsWith_iff.2 hprefix] at hinvocation
  cases hinvocation

theorem conversion_element : Everywhere (fun n => n.kind ≠ .element)
    (conversion options nodes) := by
  unfold conversion
  generalize judgeHeaderAndFooter.walk _ = given
  refine turns_judgeAnchors.keeps confined_judgeAnchors (concerns_kind _) (by decide) ?_
  refine (concerns_kind .element).brought confined_judgeKinds leavesBare_judgeKinds
    (fun _ => trivial) ?_ (everywhere_true given)
  intro n other _ h
  rcases result_judgeKinds h with ⟨rfl, hkind⟩ | ⟨b, children, rfl⟩ | ⟨depth, children, rfl, _⟩ |
    hkind
  · exact hkind
  · simp [Node.kind]
  · simp [Node.kind]
  · intro heq
    simp [heq] at hkind

/-- Headings are made by one stage only, from elements of two levels. -/
theorem depth_judgeKinds (h : Everywhere (fun n => n.kind ≠ .header) nodes) :
    Everywhere (DepthIs fun depth => depth = 1 ∨ depth = 2) (judgeKinds.walk nodes) := by
  refine concerns_depthIs.brought confined_judgeKinds leavesBare_judgeKinds
    (by simp [Node.kind]) ?_ h
  intro n other hn hresult
  rcases result_judgeKinds hresult with ⟨rfl, _⟩ | ⟨b, children, rfl⟩ |
    ⟨depth, children, rfl, hdepth⟩ | hkind
  · exact concerns_depthIs.others other hn
  · intro _ _ _ heq
    cases heq
  · intro depth' anchor' children' heq
    cases heq
    exact hdepth
  · refine concerns_depthIs.others other ?_
    intro heq
    simp [heq] at hkind

theorem depth_judgeAnchors {test : UInt8 → Prop} (h : Everywhere (DepthIs test) nodes) :
    Everywhere (DepthIs test) (judgeAnchors.walk nodes) := by
  refine walk_keeps confined_judgeAnchors
    (fun data => concerns_depthIs.others (.text data) (by simp [Node.kind]))
    concerns_depthIs.refill ?_ h
  intro n other hn hresult
  rcases result_judgeAnchors hresult with rfl | ⟨depth, anchor, anchor', children, children',
    rfl, rfl⟩
  · exact hn
  · intro depth' anchor'' children'' heq
    cases heq
    exact hn depth anchor children rfl

theorem conversion_depth (h : Everywhere (fun n => n.kind ≠ .header) nodes) :
    Everywhere (DepthIs fun depth => depth = 1 ∨ depth = 2) (conversion options nodes) := by
  have hp := concerns_kind .header
  refine depth_judgeAnchors (depth_judgeKinds ?_)
  refine (turns_only_drop _).keeps (confined_only_drop _) hp (by decide) ?_
  refine turns_judgeMacros.keeps confined_judgeMacros hp (by decide) ?_
  refine (turns_only_drop _).keeps (confined_only_drop _) hp (by decide) ?_
  refine turns_judgeWrongInlineMath.keeps confined_judgeWrongInlineMath hp (by decide) ?_
  refine turns_judgeInlineMath.keeps confined_judgeInlineMath hp (by decide) ?_
  refine turns_judgeTables.keeps confined_judgeTables hp (by decide) ?_
  refine turns_judgeInlineFigures.keeps confined_judgeInlineFigures hp (by decide) ?_
  refine turns_judgeFigures.keeps confined_judgeFigures hp (by decide) ?_
  refine turns_judgeLists.keeps confined_judgeLists hp (by decide) ?_
  exact turns_judgeNumbered.keeps confined_judgeNumbered hp (by decide) h

end Stages

/-! ## The normal form -/

/-- Conversion always gives an article of settled nodes, and its headings are of two depths
    if there were none before. -/
theorem Article.settled_of_convert (options : Options) (ctx : Context) (nodes : Forest) :
    ∃ article, Article.convert options ctx nodes = .done article ∧
      Everywhere Settled article ∧
      (Everywhere (fun n => n.kind ≠ .header) nodes →
        Everywhere (DepthIs fun depth => depth = 1 ∨ depth = 2) article) := by
  refine ⟨_, Stages.convert_eq options ctx nodes, ?_, Stages.conversion_depth⟩
  intro n hn
  exact {
    element := Stages.conversion_element n hn
    meaning := Stages.conversion_meaning n hn
    invocation := Stages.conversion_invocation n hn
    formula := Stages.conversion_formula n hn }

/-- A heading around a macro comes out settled, with an allowed depth. -/
theorem Article.settled_heading :
    Everywhere (fun n => n.kind ≠ .header)
        [.element "h2" .empty [.template "Liste" [("list", .text "entry")]]] ∧
      ∃ article, Article.convert {} ⟨"Title", 0⟩
          [.element "h2" .empty [.template "Liste" [("list", .text "entry")]]] = .done article ∧
        Everywhere Settled article ∧
        Everywhere (DepthIs fun depth => depth = 1 ∨ depth = 2) article := by
  have hinput : Everywhere (fun n => n.kind ≠ .header)
      [.element "h2" .empty [.template "Liste" [("list", .text "entry")]]] := by
    simp [everywhere_singleton, Node.kind, Node.sequences, Param.sequencesByKey, Param.sequences]
  obtain ⟨article, hdone, hsettled, hdepth⟩ := Article.settled_of_convert {} ⟨"Title", 0⟩ _
  exact ⟨hinput, article, hdone, hsettled, hdepth hinput⟩

end ArticleTree
