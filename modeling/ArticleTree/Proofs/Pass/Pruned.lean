import ArticleTree.Proofs.Pass.InTurn
import ArticleTree.Proofs.Pass.Visits

/-! # What deleting leaves

Nodes that a condition holds for are taken out with all that they own. Where the condition looks at
nothing below a node, it does not matter what was taken out below before: two conditions, one after
the other, take out what the two together do. That a second time takes nothing out, and that the
order is no matter, is read off from this.
-/

namespace ArticleTree

open Judgement

/-- The condition looks at nothing below a node. -/
def Shallow (condition : Node → Bool) : Prop :=
  ∀ n given, condition (n.refill given) = condition n

theorem Guard.shallow (guard : Guard) : Shallow guard.passes :=
  guard.passes_refill

/-- What is left of a forest without the nodes that the condition holds for, at every depth. -/
def without (condition : Node → Bool) : Forest → Forest :=
  (only condition fun _ => .drop).walk

variable {p q : Node → Bool} {nodes : Forest}

@[simp] theorem without_nil : without p [] = [] := walk_nil

theorem without_cons (n : Node) (rest : Forest) :
    without p (n :: rest) =
      (if p n then [] else [n.refill (n.sequences.map (without p))]) ++ without p rest := by
  rw [without, walk_cons]
  cases hn : p n with
  | true =>
      rw [node_drop (only_of hn)]
      rfl
  | false =>
      rw [node_descend (only_of_not hn)]
      rfl

/-- Deleting never fails and asks nothing. -/
theorem delete_walk (name : String) (ctx : Context) (nodes : Forest) :
    (Pass.delete name p).walk ctx nodes = .done (without p nodes) :=
  pass_walk name _ ctx nodes

/-- One after the other, two conditions leave what the two together do. -/
theorem without_without (hq : Shallow q) (nodes : Forest) :
    without q (without p nodes) = without (fun n => p n || q n) nodes := by
  induction nodes using Node.weightAll_induction with
  | step nodes ih =>
  cases nodes with
  | nil => simp
  | cons n rest =>
      have hrest := ih rest (Node.weightAll_lt_cons n rest)
      rw [without_cons, without_cons, ← hrest]
      cases hn : p n with
      | true => rfl
      | false =>
          have hsequences : (n.sequences.map (without p)).map (without q) =
              n.sequences.map (without fun n => p n || q n) := by
            rw [List.map_map]
            apply List.map_congr_left
            intro s hs
            exact ih s (Node.weightAll_lt_of_mem_sequences List.mem_cons_self hs)
          simp only [Bool.false_eq_true, if_false, List.singleton_append, Bool.false_or]
          rw [without_cons, hq, Node.sequences_refill (List.length_map _), hsequences,
            Node.refill_refill _ _ (List.length_map _)]

theorem without_comm (hp : Shallow p) (hq : Shallow q) (nodes : Forest) :
    without q (without p nodes) = without p (without q nodes) := by
  rw [without_without hq, without_without hp]
  simp only [Bool.or_comm]

/-- A second time there is nothing to take out. -/
theorem without_self (hp : Shallow p) (nodes : Forest) :
    without p (without p nodes) = without p nodes := by
  rw [without_without hp]
  simp only [Bool.or_self]

/-- None of the nodes is left. -/
theorem everywhere_without (hp : Shallow p) (nodes : Forest) :
    Everywhere (fun n => p n = false) (without p nodes) := by
  induction nodes using Node.weightAll_induction with
  | step nodes ih =>
  cases nodes with
  | nil => simp
  | cons n rest =>
      rw [without_cons, everywhere_append]
      refine ⟨?_, ih rest (Node.weightAll_lt_cons n rest)⟩
      cases hn : p n with
      | true => simp
      | false =>
          simp only [Bool.false_eq_true, if_false]
          rw [everywhere_singleton, hp, Node.sequences_refill (List.length_map _)]
          refine ⟨hn, List.forall_mem_map.2 fun s hs => ?_⟩
          exact ih s (Node.weightAll_lt_of_mem_sequences List.mem_cons_self hs)

/-- What is taken out are the outermost nodes that the condition holds for, and nothing else. -/
theorem without_eq_exchange (hnodes : Node.allOrdered nodes = true)
    {stops : List (Position × Node)} (hstops : Position.AreOutermost p nodes stops) :
    without p nodes = Position.exchange (stops.map fun stop => (stop.1, [])) nodes := by
  let pass := Pass.delete "" p
  let ctx : Context := ⟨"", 0⟩
  have hstay (n : Node) (hn : p n = false) : pass.judge ctx n = return .descend := by
    simp only [pass, Pass.delete, hn, Bool.false_eq_true, if_false]
  have hgone : Pass.changes (fun n => Option.toList <$> pass.node ctx n) stops =
      .done (stops.map fun stop => (stop.1, [])) := by
    apply Pass.mapM_done
    intro stop hstop
    have hjudge : pass.judge ctx stop.2 = return .drop := by
      simp only [pass, Pass.delete, hstops.holds hstop, if_true]
    have hnode : pass.node ctx stop.2 = .done none := by
      rw [Pass.node_eq, hjudge]
      rfl
    simp only [hnode]
    rfl
  have hwalk : pass.walk ctx nodes = _ := Pass.walk_eq_exchange hnodes hstay
  rw [hstops.unique (Position.areOutermost_outermost hnodes)] at hgone ⊢
  rw [hgone, delete_walk] at hwalk
  exact Session.done.inj hwalk

namespace Pass

/-- Deleting what passes a guard never fails, asks nothing, and takes out the outermost nodes that
    pass it, each with all that it owns. None that passes it is left, so that nothing is deleted a
    second time. Deleting by two guards is the same in both orders, and the same as deleting what
    passes one or the other. -/
theorem delete_prunes (p q : Guard) (name other both : String) (ctx : Context)
    (nodes : Forest) (hnodes : Node.allOrdered nodes = true) :
    ∃ kept left : Forest,
      (delete name p.passes).walk ctx nodes = .done kept ∧
      (∃ stops, Position.AreOutermost p.passes nodes stops ∧
        kept = Position.exchange (stops.map fun stop => (stop.1, [])) nodes) ∧
      Everywhere (fun n => p.passes n = false) kept ∧
      (delete name p.passes).walk ctx kept = .done kept ∧
      (delete other q.passes).walk ctx kept = .done left ∧
      (delete other q.passes).walk ctx nodes >>= (delete name p.passes).walk ctx = .done left ∧
      (delete both fun n => p.passes n || q.passes n).walk ctx nodes = .done left := by
  have hstops : Position.AreOutermost p.passes nodes (Position.outermost p.passes nodes) :=
    Position.areOutermost_outermost hnodes
  refine ⟨without p.passes nodes, without q.passes (without p.passes nodes), delete_walk ..,
    ⟨_, hstops, without_eq_exchange hnodes hstops⟩, everywhere_without p.shallow nodes, ?_,
    delete_walk .., ?_, ?_⟩
  · rw [delete_walk, without_self p.shallow]
  · rw [delete_walk, Session.done_bind, delete_walk, without_comm p.shallow q.shallow]
  · rw [delete_walk, without_without q.shallow]

theorem delete_prunes_spans :
    let span : Node := .element "span" ∅ [.text "s"]
    let rule : Node := .element "hr" ∅ []
    let nodes : Forest :=
      [.element "p" ∅ [.text "a", span],
        .template "T" [("1", .content [span]), ("2", .list [.content [span, rule]])],
        .list false [[span], [rule]], .image "name" "url" true [span], .notImplemented span,
        span]
    let kept : Forest :=
      [.element "p" ∅ [.text "a"],
        .template "T" [("1", .content []), ("2", .list [.content [rule]])],
        .list false [[], [rule]], .image "name" "url" true [], .notImplemented span]
    let left : Forest :=
      [.element "p" ∅ [.text "a"], .template "T" [("1", .content []), ("2", .list [.content []])],
        .list false [[], []], .image "name" "url" true [], .notImplemented span]
    let spans : Guard := [.element "span"]
    let rules : Guard := [.element "hr"]
    let ctx : Context := ⟨"Test", 0⟩
    Node.allOrdered nodes = true ∧
      (delete "spans" spans.passes).walk ctx nodes = .done kept ∧
      (delete "spans" spans.passes).walk ctx kept = .done kept ∧
      (delete "rules" rules.passes).walk ctx kept = .done left ∧
      (delete "both" fun n => spans.passes n || rules.passes n).walk ctx nodes = .done left := by
  intro span rule nodes kept left spans rules ctx
  have hordered : Node.allOrdered nodes = true := by decide
  obtain ⟨hspans, hrules⟩ :
      without spans.passes nodes = kept ∧ without rules.passes kept = left := by
    constructor <;>
      simp [nodes, kept, left, spans, rules, span, rule, without_cons, Guard.passes_iff, Node.kind,
        Node.name?, Node.sequences, Node.refill, Param.sequencesByKey, Param.sequences,
        Param.sequencesAll, Param.refillByKey, Param.refill, Param.refillAll]
  obtain ⟨kept', left', hkept, -, -, hagain, hleft, -, hboth⟩ :=
    delete_prunes spans rules "spans" "rules" "both" ctx nodes hordered
  obtain rfl : kept' = kept := by
    rw [← hspans]
    rw [delete_walk] at hkept
    exact (Session.done.inj hkept).symm
  obtain rfl : left' = left := by
    rw [← hrules]
    rw [delete_walk] at hleft
    exact (Session.done.inj hleft).symm
  exact ⟨hordered, hkept, hagain, hleft, hboth⟩

end Pass

end ArticleTree
