import ArticleTree.Proofs.Node.Outermost
import ArticleTree.Proofs.Node.Params
import ArticleTree.Proofs.Pass.Rewritten
import ArticleTree.Proofs.Stages.Confined
import Mathlib.Data.List.Induction

/-! # The anchors of headings

A heading that ends with a macro that sets an anchor gets the anchor, and the macro is taken out.
The stage does not go on in such a heading. So a heading in it keeps its macro, and if there was
a macro before the one that was taken out, the heading ends with that one.
-/

namespace ArticleTree

open Judgement Stages

/-! ## Macros that set anchors -/

section Macros

variable {name : String} {params : List (String × Param)} {n : Node}

theorem anchorOf?_of_kind (h : n.kind ≠ .template) : anchorOf? n = none := by
  unfold anchorOf?
  rw [if_neg]
  simp [Guard.passes_iff, h]

theorem anchorOf?_template :
    anchorOf? (.template name params) =
      if name = anchorMacro then (Node.template name params).textParam? "1" else none := by
  unfold anchorOf?
  by_cases hname : name = anchorMacro
  · simp [Guard.passes_iff, hname, Node.kind, Node.name?]
  · simp [Guard.passes_iff, hname, Node.kind, Node.name?]

end Macros

/-! ## The last node of a sequence -/

/-- A text without blanks at its end. -/
def trimmed : Node → Node
  | .text data => .text (Text.trimEnd data)
  | other => other

theorem trimmed_of_kind {n : Node} (h : n.kind ≠ .text) : trimmed n = n := by
  cases n with
  | text => exact absurd rfl h
  | _ => rfl

theorem trimLast_append (before : Forest) (last : Node) :
    trimLast (before ++ [last]) = before ++ [trimmed last] := by
  unfold trimLast
  rw [List.reverse_append]
  cases last <;> simp [trimmed]

theorem length_trimLast (nodes : Forest) : (trimLast nodes).length = nodes.length := by
  rcases List.eq_nil_or_concat' nodes with rfl | ⟨before, last, rfl⟩
  · rfl
  · rw [trimLast_append]
    simp

theorem everywhere_trimLast {p : Node → Prop} (text : ∀ data, p (.text data)) (nodes : Forest) :
    Everywhere p (trimLast nodes) ↔ Everywhere p nodes := by
  rcases List.eq_nil_or_concat' nodes with rfl | ⟨before, last, rfl⟩
  · rfl
  · rw [trimLast_append, everywhere_append, everywhere_append]
    cases last with
    | text data => simp [trimmed, everywhere_singleton, Node.sequences, text]
    | _ => rfl

namespace Stages

/-! ## Headings that end with an anchor -/

/-- The node is a macro that sets the anchor. -/
def SetsAnchor (anchor : String) (n : Node) : Prop :=
  ∃ params, n = .template "Anker" params ∧ Keyed.get? "1" params = some (.text anchor)

/-- After the nodes before, a macro that sets the anchor ends the sequence. -/
def EndsWithAnchor (before : Forest) (anchor : String) (nodes : Forest) : Prop :=
  ∃ last, nodes = before ++ [last] ∧ SetsAnchor anchor last

/-- The node is a heading that ends so. -/
def Anchored (before : Forest) (anchor : String) (n : Node) : Prop :=
  ∃ depth old children, n = .header depth old children ∧ EndsWithAnchor before anchor children

/-- The node is a heading that ends with a macro that sets some anchor. -/
def IsAnchored (n : Node) : Prop :=
  ∃ before anchor, Anchored before anchor n

/-- The heading gets its anchor. The macro is taken out, with the blanks before it. -/
inductive Hoisted : Node → Node → Prop where
  | heading {depth : UInt8} {old : Option String} {children before : Forest} {anchor : String} :
      EndsWithAnchor before anchor children →
        Hoisted (.header depth old children) (.header depth (some anchor) (trimLast before))

/-- Other nodes stay. -/
def Stays (n other : Node) : Prop :=
  ¬ IsAnchored n ∧ other = n

/-- The rule that the walk should keep to wherever it comes. -/
def HoistRule (n other : Node) : Prop :=
  Hoisted n other ∨ Stays n other

/-- No heading that ends so is live in what stands before the macro. -/
def HoldsNoAnchored (n : Node) : Prop :=
  ∀ before anchor, Anchored before anchor n → Everywhere (fun m => ¬ IsAnchored m) before

/-- What stands before the macro does not end with another one. -/
def EndsWithOne (n : Node) : Prop :=
  ∀ before anchor, Anchored before anchor n →
    ∀ before' anchor', ¬ EndsWithAnchor before' anchor' before

/-- The anchor that is set at the end of a sequence. -/
def lastAnchor? (nodes : Forest) : Option String :=
  nodes.getLast?.bind anchorOf?

section Endings

variable {n other : Node} {nodes children before : Forest} {anchor : String} {depth : UInt8}
  {old : Option String}

theorem anchorOf?_eq_some : anchorOf? n = some anchor ↔ SetsAnchor anchor n := by
  constructor
  · intro h
    cases n with
    | template name params =>
        rw [anchorOf?_template] at h
        split at h
        · rename_i hname
          obtain ⟨value, hget, htext⟩ := Option.bind_eq_some_iff.1 h
          refine ⟨params, congrArg (Node.template · params) hname, ?_⟩
          cases value with
          | text data =>
              cases htext
              exact hget
          | _ => cases htext
        · cases h
    | _ =>
        rw [anchorOf?_of_kind (by simp [Node.kind])] at h
        cases h
  · rintro ⟨params, rfl, hget⟩
    rw [anchorOf?_template, anchorMacro, if_pos rfl, Node.textParam?, hget]
    rfl

theorem lastAnchor?_append (before : Forest) (last : Node) :
    lastAnchor? (before ++ [last]) = anchorOf? last := by
  simp [lastAnchor?]

theorem endsWithAnchor_iff : EndsWithAnchor before anchor nodes ↔
    lastAnchor? nodes = some anchor ∧ before = nodes.dropLast := by
  constructor
  · rintro ⟨last, rfl, hlast⟩
    rw [lastAnchor?_append, List.dropLast_concat]
    exact ⟨anchorOf?_eq_some.2 hlast, rfl⟩
  · rintro ⟨hlast, rfl⟩
    rcases List.eq_nil_or_concat' nodes with rfl | ⟨before, last, rfl⟩
    · cases hlast
    · rw [lastAnchor?_append] at hlast
      rw [List.dropLast_concat]
      exact ⟨last, rfl, anchorOf?_eq_some.1 hlast⟩

theorem isAnchored_header : IsAnchored (.header depth old children) ↔
    ∃ anchor, lastAnchor? children = some anchor := by
  constructor
  · rintro ⟨before, anchor, _, _, _, heq, hends⟩
    cases heq
    exact ⟨anchor, (endsWithAnchor_iff.1 hends).1⟩
  · rintro ⟨anchor, hlast⟩
    exact ⟨_, anchor, _, _, _, rfl, endsWithAnchor_iff.2 ⟨hlast, rfl⟩⟩

theorem not_isAnchored_of_kind (h : n.kind ≠ .header) : ¬ IsAnchored n := by
  rintro ⟨_, _, depth, old, children, rfl, _⟩
  exact h rfl

theorem lastAnchor?_trimLast (nodes : Forest) :
    lastAnchor? (trimLast nodes) = lastAnchor? nodes := by
  rcases List.eq_nil_or_concat' nodes with rfl | ⟨before, last, rfl⟩
  · rfl
  · rw [trimLast_append, lastAnchor?_append, lastAnchor?_append]
    cases last <;> rfl

theorem anchored_header : Anchored before anchor (.header depth old children) ↔
    EndsWithAnchor before anchor children := by
  constructor
  · rintro ⟨_, _, _, heq, hends⟩
    cases heq
    exact hends
  · intro hends
    exact ⟨_, _, _, rfl, hends⟩

end Endings

/-! ## What the stage does to one node -/

section Verdicts

variable {n other : Node}

theorem judgeAnchors_of_hoisted (h : Hoisted n other) : judgeAnchors n = .done other := by
  cases h with
  | @heading depth old children before anchor hends =>
      obtain ⟨hlast, rfl⟩ := endsWithAnchor_iff.1 hends
      have hverdict : judgeAnchors (.header depth old children) =
          hoistAnchor (.header depth old children) := only_of rfl
      rw [lastAnchor?] at hlast
      simp only [hverdict, hoistAnchor, hlast]

theorem judgeAnchors_of_not (h : ¬ IsAnchored n) : judgeAnchors n = .descend := by
  cases n with
  | header depth old children =>
      have hverdict : judgeAnchors (.header depth old children) =
          hoistAnchor (.header depth old children) := only_of rfl
      rw [isAnchored_header, lastAnchor?, not_exists, ← Option.eq_none_iff_forall_ne_some] at h
      simp only [hverdict, hoistAnchor, h]
  | _ => rfl

theorem isAnchored_iff : IsAnchored n ↔ ∃ other, Hoisted n other := by
  constructor
  · rintro ⟨before, anchor, depth, old, children, rfl, hends⟩
    exact ⟨_, .heading hends⟩
  · rintro ⟨other, h⟩
    cases h with
    | heading hends => exact ⟨_, _, _, _, _, rfl, hends⟩

theorem Hoisted.unique {other' : Node} (h : Hoisted n other) (h' : Hoisted n other') :
    other = other' := by
  have hverdict := judgeAnchors_of_hoisted h
  rw [judgeAnchors_of_hoisted h'] at hverdict
  cases hverdict
  rfl

theorem hoistRule_of_hoisted (h : Hoisted n other) (m : Node) : HoistRule n m ↔ m = other := by
  constructor
  · rintro (hm | ⟨hnot, -⟩)
    · exact hm.unique h
    · exact absurd (isAnchored_iff.2 ⟨other, h⟩) hnot
  · rintro rfl
    exact .inl h

theorem hoistRule_of_not (h : ¬ IsAnchored n) (m : Node) : HoistRule n m ↔ m = n := by
  constructor
  · rintro (hm | ⟨-, hm⟩)
    · exact absurd (isAnchored_iff.2 ⟨m, hm⟩) h
    · exact hm
  · rintro rfl
    exact .inr ⟨h, rfl⟩

theorem walk_of_hoisted (h : Hoisted n other) : judgeAnchors.walk [n] = [other] := by
  rw [walk_singleton, node_done (judgeAnchors_of_hoisted h)]
  rfl

theorem walk_of_not (h : ¬ IsAnchored n) :
    judgeAnchors.walk [n] = [n.refill (n.sequences.map judgeAnchors.walk)] := by
  rw [walk_singleton, node_descend (judgeAnchors_of_not h)]
  rfl

/-- The walk hoists the anchors of headings that it reaches, and leaves what is in these. -/
theorem rewritten_judgeAnchors (nodes : Forest) :
    Rewritten Stays Hoisted nodes (judgeAnchors.walk nodes) := by
  refine rewritten_walk confined_judgeAnchors (p := fun _ => True) (fun _ => trivial) ?_
    fun _ _ => trivial
  intro n _
  by_cases h : IsAnchored n
  · obtain ⟨other, hother⟩ := isAnchored_iff.1 h
    exact .inr ⟨other, judgeAnchors_of_hoisted hother, hother⟩
  · exact .inl ⟨n, _, judgeAnchors_of_not h, h, rfl⟩

theorem length_walk_judgeAnchors (n : Node) : (judgeAnchors.walk [n]).length = 1 :=
  (rewritten_judgeAnchors [n]).length_eq

theorem Anchored.unique {before before' : Forest} {anchor anchor' : String}
    (h : Anchored before anchor n) (h' : Anchored before' anchor' n) : before' = before := by
  obtain ⟨depth, old, children, rfl, hends⟩ := h
  exact (endsWithAnchor_iff.1 (anchored_header.1 h')).2.trans (endsWithAnchor_iff.1 hends).2.symm

theorem holdsNoAnchored_iff {before : Forest} {anchor : String} (h : Anchored before anchor n) :
    HoldsNoAnchored n ↔ Everywhere (fun m => ¬ IsAnchored m) before := by
  constructor
  · intro hholds
    exact hholds before anchor h
  · intro hbefore before' anchor' h'
    rwa [h.unique h']

theorem endsWithOne_iff {before : Forest} {anchor : String} (h : Anchored before anchor n) :
    EndsWithOne n ↔ ¬ ∃ anchor', lastAnchor? before = some anchor' := by
  constructor
  · rintro hone ⟨anchor', hlast⟩
    exact hone before anchor h _ anchor' (endsWithAnchor_iff.2 ⟨hlast, rfl⟩)
  · intro hnone before' anchor' h' before'' anchor'' hends
    rw [h.unique h'] at hends
    exact hnone ⟨anchor'', (endsWithAnchor_iff.1 hends).1⟩

/-- What stands before the macro is what is left in the heading, but for blanks. -/
theorem Hoisted.below_iff (h : Hoisted n other) :
    (∀ s ∈ other.sequences, Everywhere (fun m => ¬ IsAnchored m) s) ↔ HoldsNoAnchored n := by
  cases h with
  | heading hends =>
      have htext (data : String) : ¬ IsAnchored (.text data) :=
        not_isAnchored_of_kind (by simp [Node.kind])
      rw [holdsNoAnchored_iff (anchored_header.2 hends), ← everywhere_trimLast htext]
      simp only [Node.sequences, List.mem_singleton, forall_eq]

/-- A heading is not what is made of it: that has one node less. -/
theorem Hoisted.not_throughout {given : List Forest} (h : Hoisted n other)
    (hgiven : List.Forall₂ (Throughout HoistRule) other.sequences given) :
    n ≠ other.refill given := by
  intro heq
  cases h with
  | heading hends =>
      obtain ⟨last, rfl, -⟩ := hends
      have hsequences := congrArg Node.sequences heq
      rw [Node.sequences_refill hgiven.length_eq.symm] at hsequences
      subst hsequences
      rw [Node.sequences, Node.sequences, List.forall₂_cons] at hgiven
      have hlength := hgiven.1.length_eq
      rw [length_trimLast, List.length_append, List.length_singleton] at hlength
      omega

theorem Hoisted.not_isAnchored_iff (h : Hoisted n other) : ¬ IsAnchored other ↔ EndsWithOne n := by
  cases h with
  | heading hends =>
      rw [endsWithOne_iff (anchored_header.2 hends), isAnchored_header, lastAnchor?_trimLast]

end Verdicts

/-! ## Forests without anchors at the ends of headings -/

/-- The rule leaves a forest as it is only if no heading ends with an anchor: such a heading has
    one node less afterwards. -/
theorem throughout_self_iff (nodes : Forest) :
    Throughout HoistRule nodes nodes ↔ Everywhere (fun n => ¬ IsAnchored n) nodes := by
  constructor
  · intro h
    induction nodes using Node.weightAll_induction with
    | step nodes ih =>
    cases nodes with
    | nil => exact everywhere_nil
    | cons n rest =>
        obtain ⟨hn, hrest⟩ := rewritten_cons_cons.1 h
        refine everywhere_cons.2 ⟨?_, ih rest (Node.weightAll_lt_cons n rest) hrest⟩
        have hnot : ¬ IsAnchored n := by
          intro hanchored
          obtain ⟨other, hother⟩ := isAnchored_iff.1 hanchored
          obtain ⟨m, given, hrule, hbelow, heq⟩ | ⟨_, hdone, _⟩ := rewritten_singleton.1 hn
          · rw [(hoistRule_of_hoisted hother m).1 hrule] at hbelow heq
            exact hother.not_throughout hbelow (List.singleton_inj.1 heq)
          · exact hdone.elim
        have hself : [n] = [n.refill n.sequences] := by rw [n.refill_sequences]
        have hbelow : Throughout HoistRule [n] [n.refill n.sequences] := hself ▸ hn
        rw [throughout_singleton (hoistRule_of_not hnot) rfl, List.forall₂_same] at hbelow
        refine everywhere_singleton.2 ⟨hnot, fun s hs => ?_⟩
        exact ih s (Node.weightAll_lt_of_mem_sequences List.mem_cons_self hs) (hbelow s hs)
  · intro h
    have hself : judgeAnchors.walk nodes = nodes :=
      walk_of_descend (h.mono fun n => judgeAnchors_of_not)
    have hrule : Throughout HoistRule nodes (judgeAnchors.walk nodes) :=
      throughout_walk confined_judgeAnchors
        (fun data => not_isAnchored_of_kind (by simp [Node.kind]))
        (fun n hn => ⟨n, _, judgeAnchors_of_not hn, .inr ⟨hn, rfl⟩⟩) h
    rwa [hself] at hrule

/-- The walk keeps the anchor that a node sets. -/
theorem exists_walk_singleton (n : Node) :
    ∃ other, judgeAnchors.walk [n] = [other] ∧ anchorOf? other = anchorOf? n := by
  by_cases h : IsAnchored n
  · obtain ⟨other, hother⟩ := isAnchored_iff.1 h
    refine ⟨other, walk_of_hoisted hother, ?_⟩
    cases hother with
    | heading =>
        rw [anchorOf?_of_kind (by simp [Node.kind]), anchorOf?_of_kind (by simp [Node.kind])]
  · refine ⟨_, walk_of_not h, ?_⟩
    by_cases hkind : n.kind = .template
    · cases n with
      | template name params =>
          rw [Node.refill_template, anchorOf?_template, anchorOf?_template,
            Node.textParam?_mapValues]
      | _ => cases hkind
    · rw [anchorOf?_of_kind hkind, anchorOf?_of_kind (by rwa [Node.kind_refill])]

theorem lastAnchor?_walk (nodes : Forest) :
    lastAnchor? (judgeAnchors.walk nodes) = lastAnchor? nodes := by
  rcases List.eq_nil_or_concat' nodes with rfl | ⟨before, last, rfl⟩
  · rw [walk_nil]
  · obtain ⟨other, hwalk, hanchor⟩ := exists_walk_singleton last
    rw [walk_append, hwalk, lastAnchor?_append, lastAnchor?_append, hanchor]

theorem not_isAnchored_refill {n : Node} (h : ¬ IsAnchored n) :
    ¬ IsAnchored (n.refill (n.sequences.map judgeAnchors.walk)) := by
  by_cases hkind : n.kind = .header
  · cases n with
    | header depth old children =>
        rw [isAnchored_header] at h
        change ¬ IsAnchored (.header depth old (judgeAnchors.walk children))
        rwa [isAnchored_header, lastAnchor?_walk]
    | _ => cases hkind
  · exact not_isAnchored_of_kind (by rwa [Node.kind_refill])

/-! ## The outermost headings tell -/

theorem throughout_walk_iff (nodes : Forest) :
    Throughout HoistRule nodes (judgeAnchors.walk nodes) ↔
      ∀ n, Outermost IsAnchored n nodes → HoldsNoAnchored n := by
  refine forall_outermost_iff
    (P := fun nodes => Throughout HoistRule nodes (judgeAnchors.walk nodes))
    (by simpa using Rewritten.nil) (fun n rest => rewritten_walk_cons (length_walk_judgeAnchors n))
    ?_ ?_ nodes
  · intro n hn
    obtain ⟨other, hother⟩ := isAnchored_iff.1 hn
    rw [walk_of_hoisted hother, ← hother.below_iff]
    nth_rewrite 1 [← other.refill_sequences]
    rw [throughout_singleton (hoistRule_of_hoisted hother) rfl, List.forall₂_same]
    simp only [throughout_self_iff]
  · intro n hn
    exact throughout_walk_descend (judgeAnchors_of_not hn) (hoistRule_of_not hn)

theorem everywhere_walk_iff (nodes : Forest) :
    Everywhere (fun n => ¬ IsAnchored n) (judgeAnchors.walk nodes) ↔
      ∀ n, Outermost IsAnchored n nodes → HoldsNoAnchored n ∧ EndsWithOne n := by
  refine forall_outermost_iff
    (P := fun nodes => Everywhere (fun n => ¬ IsAnchored n) (judgeAnchors.walk nodes))
    (by simp) ?_ ?_ ?_ nodes
  · intro n rest
    rw [← everywhere_append, ← walk_append, List.singleton_append]
  · intro n hn
    obtain ⟨other, hother⟩ := isAnchored_iff.1 hn
    rw [walk_of_hoisted hother, everywhere_singleton, hother.not_isAnchored_iff, hother.below_iff,
      and_comm]
  · intro n hn
    rw [walk_of_not hn, everywhere_singleton, Node.sequences_refill (List.length_map ..)]
    simp only [List.forall_mem_map, not_isAnchored_refill hn, not_false_eq_true, true_and]

/-- The stage never fails. It gives the headings that it reaches the anchors that they end with,
    and leaves all else as it is. What is in a heading that it changes is not reached. So all is
    hoisted exactly if no other heading in there ends with an anchor, and no heading ends with an
    anchor afterwards exactly if, besides, none of those changed ended with two. -/
theorem anchors_walk_headings (ctx : Context) (nodes : Forest) :
    ∃ made, anchors.walk ctx nodes = .done made ∧ Rewritten Stays Hoisted nodes made ∧
      (Throughout HoistRule nodes made ↔
        ∀ n, Outermost IsAnchored n nodes → HoldsNoAnchored n) ∧
      (Everywhere (fun n => ¬ IsAnchored n) made ↔
        ∀ n, Outermost IsAnchored n nodes → HoldsNoAnchored n ∧ EndsWithOne n) :=
  ⟨judgeAnchors.walk nodes, walk_anchors ctx nodes, rewritten_judgeAnchors nodes,
    throughout_walk_iff nodes, everywhere_walk_iff nodes⟩

/-- In a heading that gets its anchor, the anchor of another heading stays where it is. -/
theorem anchors_walk_innerHeading :
    let setsAnchor (anchor : String) : Node := .template "Anker" [("1", .text anchor)]
    let inner : Node := .header 2 none [.text "x", setsAnchor "b"]
    let nodes : Forest := [.header 1 none [inner, .text "t", setsAnchor "a"]]
    let made : Forest := [.header 1 (some "a") [inner, .text "t"]]
    let hoisted : Forest := [.header 1 (some "a") [.header 2 (some "b") [.text "x"], .text "t"]]
    (∀ ctx, anchors.walk ctx nodes = .done made) ∧ Throughout HoistRule nodes hoisted ∧
      ¬ Throughout HoistRule nodes made ∧ IsAnchored inner ∧ Live inner made := by
  intro setsAnchor inner nodes made hoisted
  have hends (before : Forest) (anchor : String) :
      EndsWithAnchor before anchor (before ++ [setsAnchor anchor]) :=
    ⟨setsAnchor anchor, rfl, _, rfl, rfl⟩
  have houter : Hoisted (.header 1 none ([inner, .text "t"] ++ [setsAnchor "a"]))
      (.header 1 (some "a") [inner, .text "t"]) := .heading (hends _ "a")
  have hinner : Hoisted inner (.header 2 (some "b") [.text "x"]) := .heading (hends [.text "x"] "b")
  have hwalk : judgeAnchors.walk nodes = made := walk_of_hoisted houter
  have hanchored : IsAnchored inner := isAnchored_iff.2 ⟨_, hinner⟩
  refine ⟨?_, ?_, ?_, hanchored, .inside List.mem_cons_self List.mem_cons_self
    (.among List.mem_cons_self)⟩
  · intro ctx
    rw [walk_anchors, hwalk]
  · have htext (data : String) : Throughout HoistRule [.text data] [.text data] :=
      rewritten_singleton.2 (.inl ⟨.text data, [],
        .inr ⟨not_isAnchored_of_kind (by simp [Node.kind]), rfl⟩, .nil, rfl⟩)
    have hheading : Throughout HoistRule [inner] [.header 2 (some "b") [.text "x"]] :=
      rewritten_singleton.2
        (.inl ⟨_, [[.text "x"]], .inl hinner, .cons (htext "x") .nil, rfl⟩)
    exact rewritten_singleton.2 (.inl ⟨_, [[.header 2 (some "b") [.text "x"], .text "t"]],
      .inl houter, .cons (rewritten_cons_cons.2 ⟨hheading, htext "t"⟩) .nil, rfl⟩)
  · rw [← hwalk, throughout_walk_iff]
    intro h
    have hholds := h _ (.among List.mem_cons_self (isAnchored_iff.2 ⟨_, houter⟩))
    exact hholds [inner, .text "t"] "a" (anchored_header.2 (hends _ "a")) inner
      (.among List.mem_cons_self) hanchored

end Stages

end ArticleTree
