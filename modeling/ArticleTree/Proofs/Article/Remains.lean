import ArticleTree.Proofs.Article.Stripping
import ArticleTree.Proofs.Stages.HeadingAnchors

/-! # What a node leaves in an article

A node of parsed markup leaves at most one node behind, in either order of removal. It leaves
as many in both orders unless it is a fragment that a stage claims, which only the removal
before the first stage reaches.
-/

namespace ArticleTree

open Judgement Stages

/-- The node is of a kind that parsed markup is made of. -/
def Unconverted (n : Node) : Prop :=
  n.kind ∈ [.text, .element, .template]

/-- The node leaves nothing behind in an article without fragments. -/
def Vanishes (n : Node) : Prop :=
  isInvocation n = true ∨ (isFragment n = true ∧ claim? n = none)

instance : DecidablePred Vanishes :=
  fun _ => inferInstanceAs (Decidable (_ ∨ _))

/-- What a node leaves behind sets the anchor that the node sets, and texts are left as they
    are. -/
structure Echo (n x : Node) : Prop where
  anchor : anchorOf? x = anchorOf? n
  text : n.kind = .text ∨ x.kind = .text → x = n

inductive Remains (place : Place) (n : Node) : Prop where
  | vanished : Vanishes n → staged true place [n] = [] → staged false place (prune [n]) = [] →
      Remains place n
  | survived (x : Node) : isFragment n = true → ¬ Vanishes n → staged true place [n] = [x] →
      staged false place (prune [n]) = [] → x.kind ≠ .template → Remains place n
  | kept (x y : Node) : isFragment n = false → ¬ Vanishes n → staged true place [n] = [x] →
      staged false place (prune [n]) = [y] → Echo n x → Echo n y → Remains place n

theorem echo_of_anchor {n x : Node} (htext : n.kind ≠ .text) (hanchor : anchorOf? n = none)
    (hx : x.kind ∉ [.text, .template]) : Echo n x := by
  simp only [List.mem_cons, List.not_mem_nil, or_false, not_or] at hx
  refine ⟨?_, fun h => absurd h (not_or.2 ⟨htext, hx.1⟩)⟩
  rw [hanchor, anchorOf?_of_kind hx.2]

section Elements

variable {name : String} {attrs : Attributes} {children : Forest} {place : Place}

/-- What a claim makes is seen by none of the last stages. -/
theorem exists_early_of_claim {claim : Claim}
    (h : claim? (.element name attrs children) = some claim) :
    ∃ x, walkAll early [.element name attrs children] = [x] ∧
      x.kind ∉ [.text, .template, .element, .header] := by
  cases claim with
  | list => exact ⟨_, early_list h, by simp [Node.kind]⟩
  | figure =>
      rw [early_figure h]
      cases figureFile? children with
      | none => exact ⟨_, rfl, by simp [Node.kind]⟩
      | some file => exact ⟨_, rfl, by simp [imageOf, Node.kind]⟩
  | inlineFigure => exact ⟨_, early_inlineFigure h, by simp [Node.kind]⟩
  | table => exact ⟨_, early_table h, by simp [Node.kind]⟩
  | math =>
      obtain ⟨m, hkind, hearly⟩ := early_math h
      refine ⟨m, hearly children, ?_⟩
      rcases hkind with hkind | hkind <;> simp [hkind]

theorem kind_headed (depth : UInt8) (content : Forest) : (headed depth content).kind = .header := by
  unfold headed
  split <;> rfl

theorem exists_late_element (place : Place) (name : String) (attrs : Attributes)
    (children : Forest) :
    ∃ x, walkAll place.late [.element name attrs children] = [x] ∧
      x.kind ∉ [.text, .template] := by
  by_cases hplace : place = .source
  · subst hplace
    exact ⟨_, late_source, by simp [Node.kind]⟩
  · cases hblock : blockOfName? name with
    | some b => exact ⟨_, late_block hblock hplace, by simp [Node.kind]⟩
    | none =>
        cases hlevel : headingLevel? name with
        | none => exact ⟨_, late_unknown hblock hlevel hplace, by simp [Node.kind]⟩
        | some level =>
            by_cases hallowed : level = 2 ∨ level = 3
            · cases place with
              | source => exact absurd rfl hplace
              | heading =>
                  exact ⟨_, late_heading_heading hblock hlevel hallowed, by simp [Node.kind]⟩
              | article =>
                  exact ⟨_, late_article_heading hblock hlevel hallowed, by simp [kind_headed]⟩
            · exact ⟨_, late_notAllowed hblock hlevel hallowed hplace, by simp [Node.kind]⟩

theorem exists_staged {strip : Bool} (place : Place)
    (h : (strip = true → isFragment (.element name attrs children) = false) ∨
      claim? (.element name attrs children) ≠ none) :
    ∃ x, staged strip place [.element name attrs children] = [x] ∧
      x.kind ∉ [.text, .template] := by
  cases hclaim : claim? (.element name attrs children) with
  | none =>
      have hfragment := h.resolve_right fun hne => hne hclaim
      rw [staged_element hclaim hfragment]
      exact exists_late_element place name attrs _
  | some claim =>
      obtain ⟨x, hearly, hkind⟩ := exists_early_of_claim hclaim
      simp only [List.mem_cons, List.not_mem_nil, or_false, not_or] at hkind
      rw [staged, hearly, late_pruneIf_of_kind (by simp [hkind])]
      exact ⟨_, rfl, by simp [hkind]⟩

theorem remains_element (place : Place) (name : String) (attrs : Attributes) (children : Forest) :
    Remains place (.element name attrs children) := by
  have htext : (Node.element name attrs children).kind ≠ .text := by simp [Node.kind]
  have hanchor : anchorOf? (.element name attrs children) = none :=
    anchorOf?_of_kind (by simp [Node.kind])
  cases hfragment : isFragment (.element name attrs children) with
  | true =>
      have hplain : staged false place (prune [.element name attrs children]) = [] := by
        rw [prune_fragment hfragment, staged_nil]
      cases hclaim : claim? (.element name attrs children) with
      | none =>
          have hmarked : isFragment (.element name attrs (walkAll early children)) = true :=
            (isFragment_element ..).trans hfragment
          have hstripped : staged true place [.element name attrs children] = [] := by
            rw [staged, early_element hclaim, pruneIf, if_pos rfl, prune_fragment hmarked,
              walkAll_nil]
          exact .vanished (.inr ⟨hfragment, hclaim⟩) hstripped hplain
      | some claim =>
          have hvanishes : ¬ Vanishes (.element name attrs children) := by
            simp [Vanishes, isInvocation, hclaim]
          obtain ⟨x, hstripped, hx⟩ := @exists_staged name attrs children true place
            (.inr (by simp [hclaim]))
          refine .survived x hfragment hvanishes hstripped hplain ?_
          intro heq
          simp [heq] at hx
  | false =>
      have hvanishes : ¬ Vanishes (.element name attrs children) := by
        simp [Vanishes, isInvocation, hfragment]
      obtain ⟨x, hstripped, hx⟩ := exists_staged place (.inl fun _ => hfragment)
      obtain ⟨y, hplain, hy⟩ := @exists_staged name attrs (prune children) false place
        (.inl (by simp))
      rw [← prune_element hfragment] at hplain
      exact .kept x y hfragment hvanishes hstripped hplain (echo_of_anchor htext hanchor hx)
        (echo_of_anchor htext hanchor hy)

end Elements

theorem remains_text (place : Place) (data : String) : Remains place (.text data) := by
  have hfragment : isFragment (.text data) = false := isFragment_of_kind (by simp [Node.kind])
  refine .kept (.text data) (.text data) hfragment ?_ (staged_text data) ?_ ⟨rfl, fun _ => rfl⟩
    ⟨rfl, fun _ => rfl⟩
  · simp [Vanishes, hfragment, isInvocation]
  · rw [prune_text, staged_text]

section Macros

variable {name : String} {params : List (String × Param)} {place : Place}

/-- Merging and walking below a macro leave the anchor that it sets. -/
theorem echo_merged (f : Forest → Forest) :
    Echo (.template name params)
      ((merged name params).refill ((merged name params).sequences.map f)) := by
  rw [merged, Node.refill_template]
  refine ⟨?_, fun htext => by simp [Node.kind] at htext⟩
  rw [anchorOf?_template, anchorOf?_template, Node.textParam?_mapValues]
  by_cases hname : name = anchorMacro
  · have hfamilies : Markup.familiesOf anchorMacro = [] := by decide
    rw [hname, hfamilies]
    rfl
  · rw [if_neg hname, if_neg hname]

theorem echo_of_name {x : Node} (hname : name ≠ anchorMacro) (hx : x.kind ∉ [.text, .template]) :
    Echo (.template name params) x :=
  echo_of_anchor (by simp [Node.kind]) (by rw [anchorOf?_template, if_neg hname]) hx

theorem remains_template (place : Place) (name : String) (params : List (String × Param)) :
    Remains place (.template name params) := by
  have hfragment : isFragment (.template name params) = false :=
    isFragment_of_kind (by simp [Node.kind])
  have hstripped := @staged_template name params true place
  have hplain := @staged_prune_template name params place
  cases hinvocation : isInvocation (.template name params) with
  | true =>
      refine .vanished (.inl hinvocation) ?_ ?_
      · rw [hstripped, merged]
        exact late_invocation_refill hinvocation
      · rw [hplain, merged]
        exact late_invocation_refill hinvocation
  | false =>
      have hvanishes : ¬ Vanishes (.template name params) := by
        simp [Vanishes, hinvocation, hfragment]
      by_cases hliste : name = "Liste"
      · subst hliste
        rw [merged, late_liste_refill ((distributes_pruneIf true).comp distributes_early)]
          at hstripped
        rw [merged, late_liste_refill (distributes_early.comp distributes_prune)] at hplain
        exact .kept _ _ hfragment hvanishes hstripped hplain
          (echo_of_name (by decide) (by simp [Node.kind]))
          (echo_of_name (by decide) (by simp [Node.kind]))
      · by_cases hformel : name = "Formel"
        · subst hformel
          rw [merged, late_formel_refill] at hstripped hplain
          have hkind := kind_equationOfMacro
            (.template "Formel" (mergeFamilies (Markup.familiesOf "Formel") params))
          have hkinds : (equationOfMacro (.template "Formel"
              (mergeFamilies (Markup.familiesOf "Formel") params))).kind ∉ [.text, .template] := by
            rcases hkind with hkind | hkind <;> simp [hkind]
          exact .kept _ _ hfragment hvanishes hstripped hplain (echo_of_name (by decide) hkinds)
            (echo_of_name (by decide) hkinds)
        · have hmerged : isInvocation (.template name
              (mergeFamilies (Markup.familiesOf name) params)) = false := hinvocation
          rw [merged, late_call_refill hliste hformel hmerged] at hstripped hplain
          exact .kept _ _ hfragment hvanishes hstripped hplain (echo_merged _) (echo_merged _)

end Macros

theorem remains {n : Node} (h : Unconverted n) (place : Place) : Remains place n := by
  cases n with
  | text data => exact remains_text place data
  | element name attrs children => exact remains_element place name attrs children
  | template name params => exact remains_template place name params
  | _ => simp [Unconverted, Node.kind] at h

end ArticleTree
