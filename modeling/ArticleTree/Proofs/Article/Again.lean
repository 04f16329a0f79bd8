import ArticleTree.Proofs.Article.NormalForm
import ArticleTree.Proofs.Article.Stripping

/-! # Converting an article again

An article has nothing in it that a stage is looking for, but for anchors: a heading that ended
with two of them still ends with one. So a second conversion only sets anchors, and without
anchor macros it leaves the article as it is, whether fragments are taken out or not.
-/

namespace ArticleTree

open Judgement Stages

/-- The node is no macro that sets an anchor. -/
def SetsNoAnchor : Node → Prop :=
  NameIs fun name => name ≠ anchorMacro

namespace Judgement

theorem Inert.descend {v : Judgement} {n : Node} (h : v.Inert n) : v n = .descend := by
  have hsame := h n.sequences rfl
  rwa [n.refill_sequences] at hsame

end Judgement

namespace Stages

variable {options : Options} {n : Node} {nodes : Forest}

/-! ## What no stage is looking for -/

theorem descend_judgeNumbered (h : NameIs (fun name => name ≠ "Liste" ∧ name ≠ "Formel") n) :
    judgeNumbered n = .descend := by
  cases n with
  | template name params =>
      have hname : name ≠ "Liste" := (h name params rfl).1
      have hfamilies : Markup.familiesOf name = [] := by
        simp [Markup.familiesOf, Markup.numberedFamilies, List.lookup_cons,
          beq_eq_false_iff_ne.2 hname]
      simp [judgeNumbered, only, Node.kind, mergeNumbered, hfamilies]
  | _ => rfl

theorem descend_judgeWrongInlineMath
    (h : FormulaIs (fun formula => ¬ "\\begin\x7balign\x7d".toList <:+: formula.toList) n) :
    judgeWrongInlineMath n = .descend := by
  cases n with
  | inlineMath formula =>
      have hcontains : Text.contains alignBegin formula = false :=
        Bool.eq_false_iff.2 fun hcontains => h formula rfl (Text.contains_iff.1 hcontains)
      simp [judgeWrongInlineMath, only, Node.kind, singleExpression, hcontains]
  | _ => rfl

theorem isInvocation_eq_false (h : NameIs (fun name => ¬ "#invoke:".toList <+: name.toList) n) :
    isInvocation n = false := by
  cases n with
  | template name params =>
      exact Bool.eq_false_iff.2 fun hbegins => h name params rfl (Text.beginsWith_iff.1 hbegins)
  | _ => rfl

/-- Of all stages, only the last one has something to say to a settled node. -/
theorem descend_of_settled (h : Settled n) (options : Options) :
    ∀ v ∈ [judgeNumbered, judgeLists, judgeFigures, judgeInlineFigures, judgeTables,
      judgeInlineMath, judgeWrongInlineMath, judgeFragments options, judgeMacros,
      judgeHeaderAndFooter, judgeKinds], v n = .descend := by
  obtain ⟨hlist, hfigure, hinline, htable, hmath⟩ := claim?_eq_none.1 (claim?_of_kind h.element)
  have hfragments : judgeFragments options n = .descend :=
    only_of_not (by simp [isFragment_of_kind h.element])
  have hmacros : judgeMacros.Inert n := inert_judgeMacros fun _ _ heq => h.meaning _ _ heq
  simp only [List.forall_mem_cons, List.not_mem_nil, false_imp_iff, implies_true, and_true]
  exact ⟨descend_judgeNumbered h.meaning, only_of_not hlist, only_of_not hfigure,
    only_of_not hinline, only_of_not htable, only_of_not hmath,
    descend_judgeWrongInlineMath h.formula, hfragments, hmacros.descend,
    only_of_not (isInvocation_eq_false h.invocation), (inert_judgeKinds h.element).descend⟩

/-- Converting settled nodes only sets anchors. -/
theorem conversion_of_settled (h : Everywhere Settled nodes) :
    conversion options nodes = judgeAnchors.walk nodes := by
  have hwalk : ∀ v ∈ [judgeNumbered, judgeLists, judgeFigures, judgeInlineFigures, judgeTables,
      judgeInlineMath, judgeWrongInlineMath, judgeFragments options, judgeMacros,
      judgeHeaderAndFooter, judgeKinds], v.walk nodes = nodes :=
    fun v hv => walk_of_descend (h.mono fun n hn => descend_of_settled hn options v hv)
  simp only [List.forall_mem_cons, List.not_mem_nil, false_imp_iff, implies_true, and_true]
    at hwalk
  simp only [conversion, hwalk]

theorem settled_conversion (options : Options) (nodes : Forest) :
    Everywhere Settled (conversion options nodes) := by
  intro n hn
  exact ⟨conversion_element n hn, conversion_meaning n hn, conversion_invocation n hn,
    conversion_formula n hn⟩

/-! ## Anchors -/

/-- No stage makes a macro, and merging keeps the names. -/
theorem setsNoAnchor_conversion (h : Everywhere SetsNoAnchor nodes) :
    Everywhere SetsNoAnchor (conversion options nodes) := by
  have hp : Concerns .template SetsNoAnchor := concerns_nameIs
  refine last_keep hp (by decide) ?_
  refine (turns_only_drop _).keeps (confined_only_drop _) hp (by decide) ?_
  refine turns_judgeMacros.keeps confined_judgeMacros hp (by decide) ?_
  refine (turns_only_drop _).keeps (confined_only_drop _) hp (by decide) ?_
  refine turns_judgeWrongInlineMath.keeps confined_judgeWrongInlineMath hp (by decide) ?_
  refine turns_judgeInlineMath.keeps confined_judgeInlineMath hp (by decide) ?_
  refine turns_judgeTables.keeps confined_judgeTables hp (by decide) ?_
  refine turns_judgeInlineFigures.keeps confined_judgeInlineFigures hp (by decide) ?_
  refine turns_judgeFigures.keeps confined_judgeFigures hp (by decide) ?_
  refine turns_judgeLists.keeps confined_judgeLists hp (by decide) ?_
  refine walk_keeps confined_judgeNumbered (fun _ => hp.others _ (by simp [Node.kind])) hp.refill
    ?_ h
  intro n other hn hresult
  rcases result_judgeNumbered hresult with rfl | ⟨name, params, params', rfl, rfl⟩
  · exact hn
  · intro name' params'' heq
    cases heq
    exact hn name params rfl

theorem anchorOf?_eq_none (h : SetsNoAnchor n) : anchorOf? n = none := by
  unfold anchorOf?
  rw [if_neg]
  intro hpasses
  cases n with
  | template name params =>
      have hname : name ≠ anchorMacro := h name params rfl
      simp [Guard.passes_iff, Node.name?, Node.kind, hname] at hpasses
  | _ => simp [Guard.passes_iff, Node.kind] at hpasses

/-- A heading is only changed if its last child sets an anchor, and that child is live with
    it. -/
theorem walk_judgeAnchors_eq_self (h : Everywhere SetsNoAnchor nodes) :
    judgeAnchors.walk nodes = nodes := by
  apply walk_of_descend
  intro n hn
  cases n with
  | header depth anchor children =>
      have hlast : children.getLast?.bind anchorOf? = none := by
        rw [Option.bind_eq_none_iff]
        intro last hmem
        have hlive : Live last nodes :=
          Live.trans (.inside (List.mem_singleton.2 rfl) (List.mem_singleton.2 rfl)
            (.among (List.mem_of_getLast? hmem))) hn
        exact anchorOf?_eq_none (h last hlive)
      simp [judgeAnchors, only, Node.kind, hoistAnchor, hlast]
  | _ => rfl

end Stages

/-- A second conversion, with whatever options, only sets anchors. If the first one saw no live
    macro that does so, the second one leaves the article as it is. -/
theorem Article.convert_again (first second : Options) (ctx : Context) (nodes : Forest) :
    ∃ article, Article.convert first ctx nodes = .done article ∧
      Article.convert second ctx article = anchors.walk ctx article ∧
      ((∀ params, ¬ Live (.template "Anker" params) nodes) →
        Article.convert second ctx article = .done article) := by
  have hagain : conversion second (conversion first nodes) =
      judgeAnchors.walk (conversion first nodes) :=
    conversion_of_settled (settled_conversion first nodes)
  refine ⟨_, convert_eq first ctx nodes, ?_, ?_⟩
  · rw [convert_eq, hagain, anchors, onKind_eq, pass_walk]
    rfl
  · intro h
    have hnone : Everywhere SetsNoAnchor nodes := by
      rintro n hn _ params rfl rfl
      exact h params hn
    rw [convert_eq, hagain, walk_judgeAnchors_eq_self (setsNoAnchor_conversion hnone)]

/-- A heading in a marked list stays when fragments are taken out from what was made of it. -/
theorem Article.convert_again_markedList :
    let about : Attributes := .ofList [("about", "#mwt1")]
    let nodes : Forest := [.element "ul" about [.element "li" ∅ [.element "h2" ∅
      [.text "Title", .template "Liste" [("item1", .text "entry")]]]]]
    (∀ params, ¬ Live (.template "Anker" params) nodes) ∧
      ∃ article, Article.convert {} ⟨"Title", 0⟩ nodes = .done article ∧
        Article.convert ⟨true⟩ ⟨"Title", 0⟩ article = .done article := by
  intro about nodes
  have hnone : Everywhere SetsNoAnchor nodes := by
    simp [nodes, everywhere_singleton, everywhere_cons_cons, Node.sequences,
      Param.sequencesByKey, Param.sequences, SetsNoAnchor, NameIs, anchorMacro]
  have hlive : ∀ params, ¬ Live (.template "Anker" params) nodes :=
    fun params hn => hnone _ hn "Anker" params rfl rfl
  obtain ⟨article, hdone, -, hagain⟩ :=
    Article.convert_again {} ⟨true⟩ ⟨"Title", 0⟩ nodes
  exact ⟨hlive, article, hdone, hagain hlive⟩

end ArticleTree
