import ArticleTree.Proofs.Pass.Walk

/-! # Passes that decide by the node alone

A judgement gives each node its verdict without asking the service and without knowing the
context. The walk of its pass is then a function on forests that treats every node by itself,
so it never fails and passes over a concatenation part by part.
-/

namespace ArticleTree

/-- A verdict on every node. -/
abbrev Judgement := (n : Node) → Verdict n

/-- The node that a verdict puts in the place of its own. -/
def Verdict.result? {n : Node} : Verdict n → Option Node
  | .into other _ => some other
  | .done other => some other
  | .drop => none

@[simp] theorem Verdict.result?_descend {n : Node} :
    (Verdict.descend : Verdict n).result? = some n := rfl

namespace Judgement

/-- The pass that judges so. -/
def pass (name : String) (v : Judgement) : Pass := ⟨name, fun _ n => return v n⟩

/-- Judge the nodes that the condition holds for, and keep the others. -/
def only (condition : Node → Bool) (v : Judgement) : Judgement :=
  fun n => if condition n then v n else .descend

mutual

/-- What stands for a node after the pass. -/
def node (v : Judgement) (n : Node) : Option Node :=
  match v n with
  | .into other _ => some (other.refill (other.sequences.attach.map fun s => v.walk s.1))
  | .done other => some other
  | .drop => none
termination_by 2 * n.weight
decreasing_by
  have := Node.weightAll_le_innerWeight s.2
  omega

/-- What stands for a sequence after the pass. -/
def walk (v : Judgement) (nodes : Forest) : Forest :=
  match nodes with
  | [] => []
  | n :: rest => (v.node n).toList ++ v.walk rest
termination_by 2 * Node.weightAll nodes + 1
decreasing_by
  · simp only [Node.weightAll]
    omega
  · have := n.weight_pos
    simp only [Node.weightAll]
    omega

end

/-! ## Equations -/

variable {v : Judgement}

@[simp] theorem walk_nil : v.walk [] = [] := by
  rw [walk]

theorem walk_cons (n : Node) (rest : Forest) :
    v.walk (n :: rest) = (v.node n).toList ++ v.walk rest := by
  rw [walk]

theorem walk_singleton (n : Node) : v.walk [n] = (v.node n).toList := by
  rw [walk_cons, walk_nil, List.append_nil]

/-- A walk takes its nodes one by one. -/
theorem walk_append (xs ys : Forest) : v.walk (xs ++ ys) = v.walk xs ++ v.walk ys := by
  induction xs with
  | nil => simp
  | cons n rest ih => simp only [List.cons_append, walk_cons, ih, List.append_assoc]

theorem node_into {n other : Node} {smaller : other.innerWeight < n.weight}
    (h : v n = .into other smaller) :
    v.node n = some (other.refill (other.sequences.map v.walk)) := by
  rw [node, h]
  simp only [List.map_subtype, List.unattach_attach]

theorem node_descend {n : Node} (h : v n = .descend) :
    v.node n = some (n.refill (n.sequences.map v.walk)) :=
  node_into h

theorem node_done {n other : Node} (h : v n = .done other) : v.node n = some other := by
  rw [node, h]

theorem node_drop {n : Node} (h : v n = .drop) : v.node n = none := by
  rw [node, h]

theorem only_of_not {condition : Node → Bool} {n : Node} (h : condition n = false) :
    only condition v n = .descend := by
  simp [only, h]

theorem only_of {condition : Node → Bool} {n : Node} (h : condition n = true) :
    only condition v n = v n := by
  simp [only, h]

/-! ## The walk of the pass -/

/-- The pass of a judgement asks nothing, and makes what the judgement makes. -/
theorem pass_walk (name : String) (v : Judgement) (ctx : Context) (nodes : Forest) :
    (pass name v).walk ctx nodes = .done (v.walk nodes) := by
  induction nodes using Node.weightAll_induction with
  | step nodes ih =>
  cases nodes with
  | nil => simp
  | cons n rest =>
      have hrest : (pass name v).walk ctx rest = .done (v.walk rest) :=
        ih rest (Node.weightAll_lt_cons n rest)
      have hnode : (pass name v).node ctx n = .done (v.node n) := by
        have hjudge : (pass name v).judge ctx n = .done (v n) := rfl
        rw [Pass.node_eq, hjudge, Session.done_bind]
        cases h : v n with
        | into other smaller =>
            have hsequences : other.sequences.mapM ((pass name v).walk ctx) =
                .done (other.sequences.map v.walk) := by
              apply Pass.mapM_done
              intro s hs
              apply ih s
              have := Node.weightAll_le_innerWeight hs
              simp only [Node.weightAll]
              omega
            simp only [Pass.carryOut, Node.mapChildren, hsequences, node_into h,
              Session.pure_eq, Session.done_bind, map_eq_pure_bind]
        | done other => rw [node_done h]; rfl
        | drop => rw [node_drop h]; rfl
      rw [Pass.walk_cons, hnode, hrest, walk_cons]
      rfl

/-- A judgement that has nothing to say to the nodes of a forest leaves it. -/
theorem walk_of_descend {nodes : Forest}
    (h : Everywhere (fun n => v n = .descend) nodes) : v.walk nodes = nodes := by
  have hpass : (pass "" v).walk ⟨"", 0⟩ nodes = .done nodes :=
    Pass.walk_of_descend (h.mono fun _ hn => congrArg Session.done hn)
  rw [pass_walk] at hpass
  exact Session.done.inj hpass

/-! ## Bringing and keeping a property -/

/-- The nodes that a verdict hands on to the walk, or leaves for good, were live inside its
    own node, or are texts. -/
def Confined (v : Judgement) : Prop :=
  ∀ n other, (v n).result? = some other → ∀ s ∈ other.sequences, ∀ m ∈ s,
    (∃ t ∈ n.sequences, Live m t) ∨ ∃ data, m = .text data

theorem everywhere_of_live {q : Node → Prop} {n : Node} {s : Forest}
    (hs : ∀ m ∈ s, (∃ t ∈ n.sequences, Live m t) ∨ ∃ data, m = .text data)
    (text : ∀ data, q (.text data)) (hn : Everywhere q [n]) : Everywhere q s := by
  rw [everywhere_iff_forall_mem]
  intro m hm
  rcases hs m hm with ⟨t, ht, hlive⟩ | ⟨data, rfl⟩
  · exact ((everywhere_singleton.1 hn).2 t ht).of_live hlive
  · exact everywhere_singleton.2 ⟨text data, by simp [Node.sequences]⟩

theorem Confined.everywhere {q : Node → Prop} (hv : v.Confined) (text : ∀ data, q (.text data))
    {n other : Node} (h : (v n).result? = some other) (hn : Everywhere q [n]) :
    ∀ s ∈ other.sequences, Everywhere q s :=
  fun s hs => everywhere_of_live (hv n other h s hs) text hn

theorem confined_only {condition : Node → Bool} (hv : v.Confined) :
    (only condition v).Confined := by
  intro n other h s hs m hm
  cases hcondition : condition n with
  | true =>
      rw [only_of hcondition] at h
      exact hv n other h s hs m hm
  | false =>
      rw [only_of_not hcondition, Verdict.result?_descend, Option.some.injEq] at h
      subst h
      exact .inl ⟨s, hs, .among hm⟩

/-- If the nodes that go in have the property `q`, and what each verdict makes has the
    property `p`, then `p` holds everywhere of what comes out. The properties must not
    depend on what stands below a node, since that is walked in turn. -/
theorem walk_brings {p q : Node → Prop} (hv : v.Confined) (text : ∀ data, q (.text data))
    (refill : ∀ n given, p n → p (n.refill given))
    (made : ∀ n other, q n → (v n).result? = some other → p other)
    (left : ∀ n other, v n = .done other → ∀ s ∈ other.sequences,
      Everywhere q s → Everywhere p s)
    {nodes : Forest} (h : Everywhere q nodes) : Everywhere p (v.walk nodes) := by
  have hwalk : ((pass "" v).walk ⟨"", 0⟩ nodes).Returns (v.walk nodes) := by
    rw [pass_walk]
    exact .done _
  refine Pass.walk_everywhere ?_ ?_ h hwalk
  · intro n other smaller hn hjudge
    have hresult : (v n).result? = some other := by
      rw [← Session.returns_done.1 hjudge]
      rfl
    have hq := (everywhere_singleton.1 hn).1
    exact ⟨hv.everywhere text hresult hn, fun given _ => refill _ _ (made n other hq hresult)⟩
  · intro n other hn hjudge
    have hverdict : v n = .done other := (Session.returns_done.1 hjudge).symm
    have hresult : (v n).result? = some other := by rw [hverdict]; rfl
    have hq := (everywhere_singleton.1 hn).1
    refine everywhere_singleton.2 ⟨made n other hq hresult, ?_⟩
    intro s hs
    exact left n other hverdict s hs (hv.everywhere text hresult hn s hs)

/-- A property stays if all that verdicts make has it. -/
theorem walk_keeps {p : Node → Prop} (hv : v.Confined) (text : ∀ data, p (.text data))
    (refill : ∀ n given, p n → p (n.refill given))
    (made : ∀ n other, p n → (v n).result? = some other → p other)
    {nodes : Forest} (h : Everywhere p nodes) : Everywhere p (v.walk nodes) :=
  walk_brings hv text refill made (fun _ _ _ _ _ hs => hs) h

/-! ## Properties of one kind of node -/

/-- The judgement keeps a node or makes one of the kinds. -/
def Turns (v : Judgement) (kinds : List Kind) : Prop :=
  ∀ n other, (v n).result? = some other → other = n ∨ other.kind ∈ kinds

/-- Nothing is below the nodes that the judgement leaves for good. -/
def LeavesBare (v : Judgement) : Prop :=
  ∀ n other, v n = .done other → other.sequences = []

theorem leavesBare_only {condition : Node → Bool} (hv : v.LeavesBare) :
    (only condition v).LeavesBare := by
  intro n other h
  cases hcondition : condition n with
  | true => exact hv n other (by rwa [only_of hcondition] at h)
  | false =>
      rw [only_of_not hcondition] at h
      cases h

/-- The property restricts the nodes of one kind only, and does not look below them. -/
structure Concerns (kind : Kind) (p : Node → Prop) : Prop where
  others : ∀ n, n.kind ≠ kind → p n
  refill : ∀ n given, p n → p (n.refill given)

variable {kind : Kind} {kinds : List Kind} {p q : Node → Prop} {nodes : Forest}

/-- A judgement that makes no node of a kind keeps what concerns that kind. -/
theorem Turns.keeps (h : v.Turns kinds) (hv : v.Confined) (hp : Concerns kind p)
    (hkind : kind ∉ .text :: kinds) (hnodes : Everywhere p nodes) :
    Everywhere p (v.walk nodes) := by
  have htext (data : String) : p (.text data) :=
    hp.others _ fun heq => hkind (heq ▸ List.mem_cons_self)
  refine walk_keeps hv htext hp.refill ?_ hnodes
  intro n other hn hresult
  rcases h n other hresult with rfl | hother
  · exact hn
  · exact hp.others _ fun heq => hkind (heq ▸ List.mem_cons_of_mem _ hother)

/-- A judgement that only leaves what has nothing below it brings what all that it makes
    has. -/
theorem Concerns.brought (hp : Concerns kind p) (hv : v.Confined) (hleft : v.LeavesBare)
    (text : ∀ data, q (.text data))
    (made : ∀ n other, q n → (v n).result? = some other → p other)
    (hnodes : Everywhere q nodes) : Everywhere p (v.walk nodes) := by
  refine walk_brings hv text hp.refill made ?_ hnodes
  intro n other hdone s hs
  rw [hleft n other hdone] at hs
  cases hs

end Judgement

end ArticleTree
