import ArticleTree.Pass.Walk
import ArticleTree.Proofs.Node.Live
import ArticleTree.Proofs.Session.Returns

/-! # What a walk returns

The equations of a walk, without the bookkeeping that shows that it ends, and the rule by
which a pass brings a property to every node of a tree: it is enough to look at each verdict
by itself, since the weights of what a walk goes into only shrink.
-/

namespace ArticleTree.Pass

open Session

variable {pass : Pass} {ctx : Context}

/-- Carry out a verdict. -/
def carryOut (pass : Pass) (ctx : Context) {n : Node} : Verdict n → Session (Option Node)
  | .into other _ => some <$> other.mapChildren (pass.walk ctx)
  | .done other => return some other
  | .drop => return none

private theorem mapM_attach_val {α β : Type} (f : α → Session β) (as : List α) :
    (as.attach.mapM fun a => f a.1) = as.mapM f := by
  change as.attach.mapM (f ∘ Subtype.val) = as.mapM f
  rw [← List.mapM_map, List.attach_map_subtype_val]

theorem node_eq (pass : Pass) (ctx : Context) (n : Node) :
    pass.node ctx n = pass.judge ctx n >>= pass.carryOut ctx := by
  rw [node]
  apply bind_congr
  intro verdict
  cases verdict with
  | into other smaller =>
      simp only [carryOut, Node.mapChildren, mapM_attach_val (pass.walk ctx), map_eq_pure_bind,
        bind_assoc, pure_bind]
  | done other => rfl
  | drop => rfl

@[simp] theorem walk_nil (pass : Pass) (ctx : Context) : pass.walk ctx [] = return [] := by
  rw [walk]

theorem walk_cons (pass : Pass) (ctx : Context) (n : Node) (rest : Forest) :
    pass.walk ctx (n :: rest) = do
      let first ← pass.node ctx n
      let others ← pass.walk ctx rest
      return first.toList ++ others := by
  rw [walk]

/-- A walk over a forest is a walk over its first part and then one over its second part. -/
theorem walk_append (pass : Pass) (ctx : Context) (xs ys : Forest) :
    pass.walk ctx (xs ++ ys) = do
      let first ← pass.walk ctx xs
      let second ← pass.walk ctx ys
      return first ++ second := by
  induction xs with
  | nil => simp only [List.nil_append, walk_nil, pure_bind, bind_pure]
  | cons n rest ih =>
      simp only [List.cons_append, walk_cons, ih, bind_assoc, pure_bind, List.append_assoc]

theorem mapM_done {α β : Type} {f : α → Session β} {g : α → β} {as : List α}
    (h : ∀ a ∈ as, f a = .done (g a)) : as.mapM f = .done (as.map g) := by
  induction as with
  | nil => rfl
  | cons a as ih =>
      rw [List.mapM_cons, h a List.mem_cons_self,
        ih fun b hb => h b (List.mem_cons_of_mem _ hb)]
      rfl

/-- A pass that has nothing to say to the nodes of a forest leaves it, and asks nothing. -/
theorem walk_of_descend {nodes : Forest}
    (h : Everywhere (fun n => pass.judge ctx n = return .descend) nodes) :
    pass.walk ctx nodes = .done nodes := by
  induction nodes using Node.weightAll_induction with
  | step nodes ih =>
  cases nodes with
  | nil => exact walk_nil pass ctx
  | cons n rest =>
      obtain ⟨hn, hrest⟩ := everywhere_cons.1 h
      obtain ⟨hself, hbelow⟩ := everywhere_singleton.1 hn
      have hsequences : n.sequences.mapM (pass.walk ctx) = .done n.sequences := by
        have hmap : n.sequences.mapM (pass.walk ctx) = .done (n.sequences.map id) := by
          apply mapM_done
          intro s hs
          exact ih s (Node.weightAll_lt_of_mem_sequences List.mem_cons_self hs) (hbelow s hs)
        rwa [List.map_id] at hmap
      have hnode : pass.node ctx n = .done (some n) := by
        rw [node_eq, hself, pure_bind]
        simp only [carryOut, Verdict.descend, Node.mapChildren, hsequences, map_eq_pure_bind,
          pure_eq, done_bind, Node.refill_sequences]
      rw [walk_cons, hnode, ih rest (Node.weightAll_lt_cons n rest) hrest]
      rfl

/-! ## What comes out -/

/-- The sequences put into a node that a walk goes into are those that its own become. -/
theorem node_returns_some {n m : Node} :
    (pass.node ctx n).Returns (some m) ↔
      (∃ other smaller, (pass.judge ctx n).Returns (.into other smaller) ∧
        ∃ given, List.Forall₂ (fun s t => (pass.walk ctx s).Returns t) other.sequences given ∧
          m = other.refill given) ∨
      (pass.judge ctx n).Returns (.done m) := by
  rw [node_eq, returns_bind]
  constructor
  · rintro ⟨verdict, hjudge, hm⟩
    cases verdict with
    | into other smaller =>
        simp only [carryOut, Node.mapChildren, returns_map, returns_bind, returns_mapM,
          pure_eq, returns_done, Option.some.injEq] at hm
        obtain ⟨_, ⟨given, hgiven, rfl⟩, rfl⟩ := hm
        exact .inl ⟨other, smaller, hjudge, given, hgiven, rfl⟩
    | done other =>
        simp only [carryOut, pure_eq, returns_done, Option.some.injEq] at hm
        exact .inr (hm ▸ hjudge)
    | drop => simp [carryOut] at hm
  · rintro (⟨other, smaller, hjudge, given, hgiven, rfl⟩ | hjudge)
    · refine ⟨_, hjudge, ?_⟩
      simp only [carryOut, Node.mapChildren, returns_map, returns_bind, returns_mapM,
        pure_eq, returns_done, Option.some.injEq]
      exact ⟨_, ⟨given, hgiven, rfl⟩, rfl⟩
    · exact ⟨_, hjudge, by simp [carryOut]⟩

/-- Every node that comes out stands for one that went in. -/
theorem exists_of_mem_walk {nodes out : Forest} (h : (pass.walk ctx nodes).Returns out)
    {m : Node} (hm : m ∈ out) : ∃ n ∈ nodes, (pass.node ctx n).Returns (some m) := by
  induction nodes generalizing out with
  | nil =>
      simp only [walk_nil, pure_eq, returns_done] at h
      subst h
      cases hm
  | cons n rest ih =>
      simp only [walk_cons, returns_bind, pure_eq, returns_done] at h
      obtain ⟨first, hfirst, others, hothers, rfl⟩ := h
      rcases List.mem_append.1 hm with hm | hm
      · rw [Option.mem_toList] at hm
        exact ⟨n, List.mem_cons_self, hm ▸ hfirst⟩
      · obtain ⟨n', hn', hm⟩ := ih hothers hm
        exact ⟨n', List.mem_cons_of_mem _ hn', hm⟩

/-- The rule for passes. If the nodes that go in have the property `q`, the nodes that come
    out have the property `p`, provided that each verdict on a node whose live nodes have
    `q` sees to it: where the walk goes on, `q` must hold of what it goes into. -/
theorem walk_everywhere {p q : Node → Prop}
    (into : ∀ n other smaller, Everywhere q [n] →
      (pass.judge ctx n).Returns (.into other smaller) →
      (∀ s ∈ other.sequences, Everywhere q s) ∧
        ∀ given, List.Forall₂ (fun s t => (pass.walk ctx s).Returns t) other.sequences given →
          p (other.refill given))
    (done : ∀ n other, Everywhere q [n] → (pass.judge ctx n).Returns (.done other) →
      Everywhere p [other])
    {nodes out : Forest} (hnodes : Everywhere q nodes) (h : (pass.walk ctx nodes).Returns out) :
    Everywhere p out := by
  induction nodes using Node.weightAll_induction generalizing out with
  | step nodes ih =>
  rw [everywhere_iff_forall_mem]
  intro m hm
  obtain ⟨n, hn, hm⟩ := exists_of_mem_walk h hm
  have hq := everywhere_iff_forall_mem.1 hnodes n hn
  rcases node_returns_some.1 hm with ⟨other, smaller, hjudge, given, hgiven, rfl⟩ | hjudge
  · obtain ⟨hother, hp⟩ := into n other smaller hq hjudge
    refine everywhere_singleton.2 ⟨hp given hgiven, ?_⟩
    intro t ht
    rw [Node.sequences_refill hgiven.length_eq.symm] at ht
    obtain ⟨s, hs, hwalk⟩ := exists_of_forall₂_of_mem hgiven ht
    have hweight := Node.weightAll_le_innerWeight hs
    have hle := Node.weight_le_weightAll hn
    exact ih s (by omega) (hother s hs) hwalk
  · exact done n m hq hjudge

/-! ## Passes that replace nodes -/

/-- A pass of one rule, which replaces the nodes of its guard as they are. -/
def replacing (name : String) (guard : Node → Bool) (f : Node → Session Node) : Pass :=
  .rules name [⟨guard, fun _ n => return .done (← f n)⟩]

variable {name : String} {guard : Node → Bool} {f : Node → Session Node}

theorem replacing_judge (n : Node) :
    (replacing name guard f).judge ctx n =
      if guard n then (do return .done (← f n)) else return .descend := by
  simp only [replacing, rules, List.find?_cons, List.find?_nil]
  cases guard n <;> rfl

theorem replacing_node_returns {n m : Node} :
    ((replacing name guard f).node ctx n).Returns (some m) ↔
      (guard n = false ∧ ∃ given, List.Forall₂
        (fun s t => ((replacing name guard f).walk ctx s).Returns t) n.sequences given ∧
          m = n.refill given) ∨
      (guard n = true ∧ (f n).Returns m) := by
  rw [node_returns_some, replacing_judge]
  cases guard n with
  | false =>
      simp only [Bool.false_eq_true, if_false, pure_eq, returns_done, Verdict.descend, true_and,
        reduceCtorEq, or_false, false_and, Verdict.into.injEq]
      constructor
      · rintro ⟨_, _, rfl, given, hgiven, rfl⟩
        exact ⟨given, hgiven, rfl⟩
      · rintro ⟨given, hgiven, rfl⟩
        exact ⟨n, n.innerWeight_lt, rfl, given, hgiven, rfl⟩
  | true => simp

theorem replacing_everywhere {p q : Node → Prop}
    (keep : ∀ n, Everywhere q [n] → guard n = false → ∀ given, List.Forall₂
      (fun s t => ((replacing name guard f).walk ctx s).Returns t) n.sequences given →
        p (n.refill given))
    (replace : ∀ n m, Everywhere q [n] → guard n = true → (f n).Returns m → Everywhere p [m])
    {nodes out : Forest} (hnodes : Everywhere q nodes)
    (h : ((replacing name guard f).walk ctx nodes).Returns out) : Everywhere p out := by
  refine walk_everywhere ?_ ?_ hnodes h
  · intro n other smaller hn hjudge
    rw [replacing_judge] at hjudge
    cases hguard : guard n with
    | false =>
        simp only [hguard, Bool.false_eq_true, if_false, pure_eq, returns_done, Verdict.descend,
          Verdict.into.injEq] at hjudge
        subst hjudge
        exact ⟨(everywhere_singleton.1 hn).2, keep other hn hguard⟩
    | true => simp [hguard] at hjudge
  · intro n other hn hjudge
    rw [replacing_judge] at hjudge
    cases hguard : guard n with
    | false => simp [hguard, Verdict.descend] at hjudge
    | true =>
        simp only [hguard, if_true, returns_bind, pure_eq, returns_done, Verdict.done.injEq]
          at hjudge
        obtain ⟨m, hm, rfl⟩ := hjudge
        exact replace n other hn hguard hm

theorem replacing_singleton {n : Node} (h : guard n = true) :
    (replacing name guard f).walk ctx [n] = do return [← f n] := by
  rw [walk_cons, walk_nil, node_eq, replacing_judge, h]
  simp only [if_true, bind_assoc, pure_bind, carryOut, Option.toList_some, List.append_nil]

/-- Where there is nothing to replace, nothing is asked. -/
theorem replacing_of_not {nodes : Forest} (h : Everywhere (fun n => guard n = false) nodes) :
    (replacing name guard f).walk ctx nodes = .done nodes := by
  refine walk_of_descend (h.mono ?_)
  intro n hn
  rw [replacing_judge, hn]
  rfl

end ArticleTree.Pass
