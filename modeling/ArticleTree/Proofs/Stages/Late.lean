import ArticleTree.Proofs.Node.Params
import ArticleTree.Proofs.Pass.InTurn
import ArticleTree.Proofs.Stages.Confined

/-! # What becomes of a node after fragments are taken out

Which of the last four stages still see a node depends on where it stands. In a heading whose
anchor was found the stage that looks for anchors does not go on, and an element that nobody
understands is kept as the stages before left it.
-/

namespace ArticleTree.Stages

open Judgement

/-- Where a node stands when the last stages come. -/
inductive Place where
  | article
  /-- In a heading that got its anchor. -/
  | heading
  /-- In an element that is kept as it was found. -/
  | source
  deriving DecidableEq

/-- The stages that see a node there. -/
def Place.late : Place → List Judgement
  | .article => [judgeMacros, judgeHeaderAndFooter, judgeKinds, judgeAnchors]
  | .heading => [judgeMacros, judgeHeaderAndFooter, judgeKinds]
  | .source => [judgeMacros, judgeHeaderAndFooter]

theorem mem_late {place : Place} {v : Judgement} (h : v ∈ place.late) :
    v ∈ [judgeMacros, judgeHeaderAndFooter, judgeKinds, judgeAnchors] := by
  cases place with
  | article => exact h
  | heading | source =>
      simp only [Place.late, List.mem_cons, List.not_mem_nil, or_false] at h ⊢
      tauto

/-! ## Stages with nothing to say -/

section Inert

variable {n : Node}

theorem inert_judgeMacros (h : ∀ name params, n = .template name params →
    name ≠ "Liste" ∧ name ≠ "Formel") : judgeMacros.Inert n := by
  intro given _
  cases n with
  | template name params =>
      obtain ⟨hliste, hformel⟩ := h name params rfl
      simp [judgeMacros, only, Node.refill, Node.kind, meaningOfMacro, hliste, hformel]
  | _ => rfl

theorem inert_judgeHeaderAndFooter (h : isInvocation n = false) :
    judgeHeaderAndFooter.Inert n := by
  apply inert_only
  intro given
  cases n with
  | template name params => exact h
  | _ => rfl

theorem inert_judgeKinds (h : n.kind ≠ .element) : judgeKinds.Inert n :=
  inert_only fun given => by simpa using h

theorem inert_judgeAnchors (h : n.kind ≠ .header) : judgeAnchors.Inert n :=
  inert_only fun given => by simpa using h

theorem isInvocation_of_kind (h : n.kind ≠ .template) : isInvocation n = false := by
  cases n with
  | template => exact absurd rfl h
  | _ => rfl

theorem inert_late (hmacros : judgeMacros.Inert n) (hinvocation : isInvocation n = false)
    (helement : n.kind ≠ .element) (hheader : n.kind ≠ .header) (place : Place) :
    ∀ v ∈ place.late, v.Inert n := by
  intro v hv
  have hv := mem_late hv
  simp only [List.mem_cons, List.not_mem_nil, or_false] at hv
  rcases hv with rfl | rfl | rfl | rfl
  · exact hmacros
  · exact inert_judgeHeaderAndFooter hinvocation
  · exact inert_judgeKinds helement
  · exact inert_judgeAnchors hheader

theorem inert_late_of_kind (h : n.kind ∉ [.template, .element, .header]) (place : Place) :
    ∀ v ∈ place.late, v.Inert n := by
  simp only [List.mem_cons, List.not_mem_nil, or_false, not_or] at h
  obtain ⟨htemplate, helement, hheader⟩ := h
  refine inert_late (inert_judgeMacros ?_) (isInvocation_of_kind htemplate) helement hheader place
  rintro name params rfl
  exact absurd rfl htemplate

/-- Document nodes but headings stay, and the stages go on below them. -/
theorem late_of_kind (h : n.kind ∉ [.template, .element, .header]) (place : Place) :
    walkAll place.late [n] = [n.refill (n.sequences.map (walkAll place.late))] :=
  walkAll_inert (inert_late_of_kind h place)

theorem late_drop (h : n.kind ∉ [.template, .element, .header]) (k : Nat) (place : Place) :
    walkAll (place.late.drop k) [n] =
      [n.refill (n.sequences.map (walkAll (place.late.drop k)))] :=
  walkAll_inert fun v hv => inert_late_of_kind h place v (List.mem_of_mem_drop hv)

end Inert

/-! ## Macros -/

section Macros

variable {name : String} {params : List (String × Param)}

theorem late_call (hliste : name ≠ "Liste") (hformel : name ≠ "Formel")
    (hinvocation : isInvocation (.template name params) = false) (place : Place) :
    walkAll place.late [.template name params] =
      [(Node.template name params).refill
        ((Node.template name params).sequences.map (walkAll place.late))] := by
  refine walkAll_inert (inert_late (inert_judgeMacros ?_) hinvocation (by simp [Node.kind])
    (by simp [Node.kind]) place)
  rintro _ _ heq
  cases heq
  exact ⟨hliste, hformel⟩

theorem late_invocation (h : isInvocation (.template name params) = true) (place : Place) :
    walkAll place.late [.template name params] = [] := by
  have hname : name ≠ "Liste" ∧ name ≠ "Formel" := by
    have hbegins : Text.beginsWith invocation name = true := h
    constructor
    · rintro rfl
      revert hbegins
      decide
    · rintro rfl
      revert hbegins
      decide
  have hmacros : judgeMacros.Inert (.template name params) := by
    apply inert_judgeMacros
    rintro _ _ heq
    cases heq
    exact hname
  have hdrop (given : List Forest) :
      judgeHeaderAndFooter ((Node.template name params).refill given) = .drop := only_of h
  have hsplit (nodes : Forest) : walkAll place.late nodes =
      walkAll place.late.tail.tail (judgeHeaderAndFooter.walk (judgeMacros.walk nodes)) := by
    cases place <;> rfl
  rw [hsplit, walk_inert hmacros, walk_singleton, node_drop (hdrop _)]
  exact walkAll_nil _

theorem late_split (place : Place) (nodes : Forest) :
    walkAll place.late nodes = walkAll (place.late.drop 1) (judgeMacros.walk nodes) := by
  cases place <;> rfl

theorem late_liste (place : Place) :
    walkAll place.late [.template "Liste" params] =
      [.list ((Node.template "Liste" params).textParam? "type" == some "ol")
        ((itemParams params).map fun item => walkAll place.late item.toForest)] := by
  have hverdict : judgeMacros (.template "Liste" params) =
      meaningOfMacro (.template "Liste" params) := only_of rfl
  have hafter (ordered : Bool) (items : List Forest) :
      walkAll (place.late.drop 1) [.list ordered items] =
        [.list ordered (items.map (walkAll (place.late.drop 1)))] :=
    late_drop (by simp [Node.kind]) 1 place
  rw [late_split, walk_singleton, node_into hverdict]
  refine (hafter _ _).trans ?_
  simp only [Node.sequences, List.map_map]
  simp only [Function.comp_def, ← late_split]

theorem late_formel (place : Place) :
    walkAll place.late [.template "Formel" params] =
      [equationOfMacro (.template "Formel" params)] := by
  have hverdict : judgeMacros (.template "Formel" params) =
      meaningOfMacro (.template "Formel" params) := only_of rfl
  have hkind := kind_equationOfMacro (.template "Formel" params)
  have hafter := @late_drop (equationOfMacro (.template "Formel" params))
    (by rcases hkind with hkind | hkind <;> simp [hkind]) 1 place
  have hleaf := (equationOfMacro (.template "Formel" params)).refill_sequences
  rw [sequences_equationOfMacro] at hafter hleaf
  rw [late_split, walk_singleton, node_done hverdict]
  exact hafter.trans (congrArg (fun n => [n]) hleaf)

end Macros

/-! ## Elements -/

section Elements

variable {name : String} {attrs : Attributes} {children : Forest} {place : Place}

/-- In an element that is kept, elements stay. -/
theorem late_source :
    walkAll Place.source.late [.element name attrs children] =
      [.element name attrs (walkAll Place.source.late children)] := by
  apply walkAll_inert
  intro v hv
  simp only [Place.late, List.mem_cons, List.not_mem_nil, or_false] at hv
  rcases hv with rfl | rfl
  · exact inert_judgeMacros (by simp)
  · exact inert_judgeHeaderAndFooter rfl

theorem walk_judgeKinds (children : Forest) :
    judgeKinds.walk [.element name attrs children] =
      match blockOfName? name, headingLevel? name with
      | some b, _ => [.block b (judgeKinds.walk children)]
      | none, some level =>
          if level = 2 ∨ level = 3 then [.header (level - 1) none (judgeKinds.walk children)]
          else [.error ("Heading of depth " ++ toString level ++ " is not allowed")]
      | none, none => [.notImplemented (.element name attrs children)] := by
  have hverdict : judgeKinds (.element name attrs children) =
      kindOfElement (.element name attrs children) := only_of rfl
  simp only [kindOfElement] at hverdict
  rw [walk_singleton]
  cases hblock : blockOfName? name with
  | some b =>
      simp only [hblock] at hverdict
      rw [node_into hverdict]
      rfl
  | none =>
      cases hlevel : headingLevel? name with
      | none =>
          simp only [hblock, hlevel] at hverdict
          rw [node_done hverdict]
          rfl
      | some level =>
          simp only [hblock, hlevel] at hverdict
          by_cases hallowed : level = 2 ∨ level = 3
          · simp only [hallowed, if_true] at hverdict ⊢
            rw [node_into hverdict]
            rfl
          · simp only [hallowed, if_false] at hverdict ⊢
            rw [node_done hverdict]
            rfl

/-- In an article or a heading, what is made of an element is seen to by the stages after. -/
theorem late_element (hplace : place ≠ .source) :
    walkAll place.late [.element name attrs children] =
      walkAll (place.late.drop 3)
        (judgeKinds.walk [.element name attrs (walkAll Place.source.late children)]) := by
  rw [← late_source]
  cases place with
  | source => exact absurd rfl hplace
  | article | heading => rfl

theorem late_block {b : Block} (h : blockOfName? name = some b) (hplace : place ≠ .source) :
    walkAll place.late [.element name attrs children] =
      [.block b (walkAll place.late children)] := by
  rw [late_element hplace, walk_judgeKinds]
  simp only [h]
  rw [late_drop (by simp [Node.kind]) 3 place]
  cases place with
  | source => exact absurd rfl hplace
  | article | heading => rfl

theorem late_notAllowed {level : UInt8} (hblock : blockOfName? name = none)
    (hlevel : headingLevel? name = some level) (hallowed : ¬ (level = 2 ∨ level = 3))
    (hplace : place ≠ .source) :
    walkAll place.late [.element name attrs children] =
      [.error ("Heading of depth " ++ toString level ++ " is not allowed")] := by
  rw [late_element hplace, walk_judgeKinds]
  simp only [hblock, hlevel, hallowed, if_false]
  exact late_drop (by simp [Node.kind]) 3 place

theorem late_unknown (hblock : blockOfName? name = none) (hlevel : headingLevel? name = none)
    (hplace : place ≠ .source) :
    walkAll place.late [.element name attrs children] =
      [.notImplemented (.element name attrs (walkAll Place.source.late children))] := by
  rw [late_element hplace, walk_judgeKinds]
  simp only [hblock, hlevel]
  exact late_drop (by simp [Node.kind]) 3 place

/-- In a heading that got its anchor, headings keep theirs among their children. -/
theorem late_heading_heading {level : UInt8} (hblock : blockOfName? name = none)
    (hlevel : headingLevel? name = some level) (hallowed : level = 2 ∨ level = 3) :
    walkAll Place.heading.late [.element name attrs children] =
      [.header (level - 1) none (walkAll Place.heading.late children)] := by
  rw [late_element (by decide), walk_judgeKinds]
  simp only [hblock, hlevel, hallowed, if_true]
  rfl

/-- A heading whose content is there looks for its anchor. -/
def headed (depth : UInt8) (content : Forest) : Node :=
  match content.getLast?.bind anchorOf? with
  | some anchor => .header depth (some anchor) (trimLast content.dropLast)
  | none => .header depth none (judgeAnchors.walk content)

theorem headed_of_some {depth : UInt8} {content : Forest} {anchor : String}
    (h : content.getLast?.bind anchorOf? = some anchor) :
    headed depth content = .header depth (some anchor) (trimLast content.dropLast) := by
  simp [headed, h]

theorem headed_of_none {depth : UInt8} {content : Forest}
    (h : content.getLast?.bind anchorOf? = none) :
    headed depth content = .header depth none (judgeAnchors.walk content) := by
  simp [headed, h]

theorem walk_judgeAnchors (depth : UInt8) (content : Forest) :
    judgeAnchors.walk [.header depth none content] = [headed depth content] := by
  have hverdict : judgeAnchors (.header depth none content) =
      hoistAnchor (.header depth none content) := only_of rfl
  rw [walk_singleton]
  cases hanchor : content.getLast?.bind anchorOf? with
  | some anchor =>
      have hdone : hoistAnchor (.header depth none content) =
          .done (.header depth (some anchor) (trimLast content.dropLast)) := by
        simp only [hoistAnchor, hanchor]
      rw [node_done (hverdict.trans hdone), headed_of_some hanchor]
      rfl
  | none =>
      have hdescend : hoistAnchor (.header depth none content) = .descend := by
        simp only [hoistAnchor, hanchor]
      rw [node_descend (hverdict.trans hdescend), headed_of_none hanchor]
      rfl

theorem late_article_heading {level : UInt8} (hblock : blockOfName? name = none)
    (hlevel : headingLevel? name = some level) (hallowed : level = 2 ∨ level = 3) :
    walkAll Place.article.late [.element name attrs children] =
      [headed (level - 1) (walkAll Place.heading.late children)] := by
  have hsplit (nodes : Forest) : walkAll Place.article.late nodes =
      judgeAnchors.walk (walkAll Place.heading.late nodes) := rfl
  rw [hsplit, late_heading_heading hblock hlevel hallowed, walk_judgeAnchors]

end Elements

end ArticleTree.Stages
