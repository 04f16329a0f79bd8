import ArticleTree.Proofs.Node.Position
import ArticleTree.Proofs.Pass.Walk
import ArticleTree.Proofs.Session.Log

/-! # What a walk visits

A pass that has a say only in some nodes goes below all others and keeps them. So what it does is
done to the outermost of those nodes, once each and in document order, and what it makes of them is
put in their slots; all else stays.
-/

namespace ArticleTree

namespace Session

variable {α β γ : Type}

/-- What comes after a session need only be known for the values that it returns. -/
theorem bind_congr_of_returns {s : Session α} {k k' : α → Session β}
    (h : ∀ a, s.Returns a → k a = k' a) : s >>= k = s >>= k' := by
  induction s with
  | done value => exact h value (.done value)
  | fail reason => rfl
  | tooDeep => rfl
  | ask call next ih =>
      refine congrArg (ask call) (funext fun answer => ?_)
      exact ih answer fun a ha => h a (.ask answer ha)

variable {σ : Type} {service : Call → StateM σ Answer}

/-- Requests for several things, one after the other, to a service that never fails. -/
theorem observe_mapM_request {f : α → Session β} {call : α → Call} {make : α → String → β}
    (hservice : ∀ call state, ∃ text, (service call state).1 = .ok text) {as : List α}
    (h : ∀ a ∈ as, f a = make a <$> request (call a)) (state : σ) :
    ∃ answered : List (α × String), answered.map Prod.fst = as ∧
      let run := (as.mapM f).observe service state
      run.outcome = .ok (answered.map fun entry => make entry.1 entry.2) ∧
        run.log = answered.map fun entry => (call entry.1, .ok entry.2) := by
  induction as generalizing state with
  | nil => exact ⟨[], rfl, rfl, rfl⟩
  | cons a as ih =>
      obtain ⟨hfirst, hothers⟩ := List.forall_mem_cons.1 h
      obtain ⟨text, htext⟩ := hservice (call a) state
      obtain ⟨answered, hanswered, hvalue, hlog⟩ := ih hothers (service (call a) state).2
      refine ⟨(a, text) :: answered, by rw [List.map_cons, hanswered], ?_⟩
      rw [List.mapM_cons, hfirst, map_eq_pure_bind, bind_assoc, observe_request_of_ok htext,
        pure_bind, observe_bind_of_ok hvalue]
      constructor
      · rfl
      · simp only [Run.after, hlog, pure_eq, observe_done, List.append_nil, List.map_cons]

end Session

namespace Pass

open Position

variable {pass : Pass} {ctx : Context} {condition : Node → Bool} {nodes : Forest}
  {f : Node → Session Forest}

/-- What is made of nodes, one after the other, with their positions. -/
def changes (f : Node → Session Forest) (stops : List (Position × Node)) :
    Session (List (Position × Forest)) :=
  stops.mapM fun stop => Prod.mk stop.1 <$> f stop.2

theorem changes_append (xs ys : List (Position × Node)) :
    changes f (xs ++ ys) = do return (← changes f xs) ++ (← changes f ys) :=
  List.mapM_append

theorem changes_moved (move : Position → Position) (stops : List (Position × Node)) :
    changes f (stops.map (Prod.map move id)) =
      List.map (Prod.map move id) <$> changes f stops := by
  induction stops with
  | nil => rfl
  | cons stop stops ih =>
      simp only [changes, List.map_cons, List.mapM_cons, map_eq_pure_bind, bind_assoc,
        pure_bind] at ih ⊢
      simp only [Prod.map_fst, Prod.map_snd, id_eq, ih, bind_assoc, pure_bind]
      rfl

/-- What is made of the outermost nodes in each of some slots. -/
def changesAt (f : Node → Session Forest) (condition : Node → Bool)
    (slots : List (Slot × Forest)) :
    Session (List (Slot × Forest × List (Position × Forest))) :=
  slots.mapM fun entry =>
    (fun made => (entry.1, entry.2, made)) <$> changes f (outermost condition entry.2)

theorem changes_slots (slots : List (Slot × Forest)) :
    changes f (slots.flatMap fun entry =>
        (outermost condition entry.2).map (Prod.map (inside 0 entry.1) id)) =
      (fun parts => parts.flatMap fun part => part.2.2.map (Prod.map (inside 0 part.1) id)) <$>
        changesAt f condition slots := by
  induction slots with
  | nil => rfl
  | cons entry slots ih =>
      simp only [changesAt, List.flatMap_cons, List.mapM_cons, map_eq_pure_bind, bind_assoc,
        pure_bind] at ih ⊢
      simp only [changes_append, changes_moved, ih, map_eq_pure_bind, bind_assoc, pure_bind]

theorem mapM_walk_slots {slots : List (Slot × Forest)}
    (h : ∀ entry ∈ slots, pass.walk ctx entry.2 =
      (fun made => exchange made entry.2) <$> changes f (outermost condition entry.2)) :
    (slots.map Prod.snd).mapM (pass.walk ctx) =
      (fun parts => parts.map fun part => exchange part.2.2 part.2.1) <$>
        changesAt f condition slots := by
  induction slots with
  | nil => rfl
  | cons entry slots ih =>
      obtain ⟨hfirst, hothers⟩ := List.forall_mem_cons.1 h
      simp only [changesAt, List.map_cons, List.mapM_cons, map_eq_pure_bind, bind_assoc,
        pure_bind] at ih ⊢
      simp only [hfirst, ih hothers, map_eq_pure_bind, bind_assoc, pure_bind]

theorem slots_of_changesAt {slots : List (Slot × Forest)}
    {parts : List (Slot × Forest × List (Position × Forest))}
    (h : (changesAt f condition slots).Returns parts) :
    parts.map (fun part => (part.1, part.2.1)) = slots := by
  rw [changesAt, Session.returns_mapM] at h
  induction h with
  | nil => rfl
  | cons hfirst _ ih =>
      obtain ⟨made, -, rfl⟩ := Session.returns_map.1 hfirst
      rw [List.map_cons, ih]

/-- A pass that goes below every node that the condition does not hold for makes something of the
    outermost ones that it holds for, and puts that in their slots. -/
theorem walk_eq_exchange (hnodes : Node.allOrdered nodes = true)
    (hpass : ∀ n, condition n = false → pass.judge ctx n = return .descend) :
    pass.walk ctx nodes = (fun made => exchange made nodes) <$>
      changes (fun n => Option.toList <$> pass.node ctx n) (outermost condition nodes) := by
  induction nodes using Node.weightAll_induction with
  | step nodes ih =>
  cases nodes with
  | nil =>
      rw [walk_nil, outermost_nil]
      rfl
  | cons n rest =>
      simp only [Node.allOrdered, Bool.and_eq_true] at hnodes
      obtain ⟨hn, hothers⟩ := hnodes
      have hrest := ih rest (Node.weightAll_lt_cons n rest) hothers
      rw [walk_cons, hrest, Position.outermost_cons, changes_append, changes_moved]
      cases hcondition : condition n with
      | true =>
          simp only [changes, if_true, List.mapM_cons, List.mapM_nil, map_eq_pure_bind,
            bind_assoc, pure_bind, exchange_append, exchange_next]
          rfl
      | false =>
          have hsequences : n.sequences.mapM (pass.walk ctx) =
              (fun parts => parts.map fun part => exchange part.2.2 part.2.1) <$>
                changesAt (fun n => Option.toList <$> pass.node ctx n) condition n.slots := by
            rw [← n.map_snd_slots]
            apply mapM_walk_slots
            intro entry hentry
            have hs := Node.mem_sequences_of_mem_slots hentry
            exact ih entry.2 (Node.weightAll_lt_of_mem_sequences List.mem_cons_self hs)
              (Node.allOrdered_of_mem_sequences hn hs)
          rw [node_eq, hpass n hcondition, pure_bind]
          simp only [carryOut, Verdict.descend, Node.mapChildren, hsequences, changes_slots,
            Bool.false_eq_true, if_false, map_eq_pure_bind, bind_assoc, pure_bind]
          apply Session.bind_congr_of_returns
          intro parts hparts
          simp only [exchange_append, exchange_next,
            exchange_slots hn _ (slots_of_changesAt hparts)]
          rfl

/-! ## Rules -/

theorem rules_judge_of_not {name : String} {rules : List Rule} {n : Node}
    (h : ∀ rule ∈ rules, rule.guard n = false) :
    (Pass.rules name rules).judge ctx n = return .descend := by
  have hnone : rules.find? (fun rule => rule.guard n) = none := by
    apply List.find?_eq_none.2
    intro rule hrule
    rw [h rule hrule]
    exact Bool.false_ne_true
  simp only [Pass.rules, hnone]

/-- A node that passes some guard is judged by the first of the rules whose guard it passes. -/
theorem exists_first_rule {name : String} {rules : List Rule} {n : Node}
    (h : (rules.any fun rule => rule.guard n) = true) :
    ∃ before rule after, rules = before ++ rule :: after ∧ rule.guard n = true ∧
      (∀ earlier ∈ before, earlier.guard n = false) ∧
      (Pass.rules name rules).judge ctx n = rule.judge ctx n := by
  cases hfound : rules.find? (fun rule => rule.guard n) with
  | none =>
      obtain ⟨rule, hrule, hguard⟩ := List.any_eq_true.1 h
      exact absurd hguard (List.find?_eq_none.1 hfound rule hrule)
  | some rule =>
      obtain ⟨hguard, before, after, hrules, hbefore⟩ := List.find?_eq_some_iff_append.1 hfound
      refine ⟨before, rule, after, hrules, hguard, ?_, ?_⟩
      · intro earlier hearlier
        simpa using hbefore earlier hearlier
      · simp only [Pass.rules, hfound]

/-- The rule that renders the text of a node, or a fixed text if it has none, and writes a text
    from that. -/
def rendering (guard : Guard) (fixed : String) (write : Node → String → String) : Rule where
  guard := guard.passes
  judge ctx n := do
    let html ← Session.request (.renderHtml ctx.title (n.data?.getD fixed))
    return .done (.text (write n html))

/-- What is done to the outermost nodes that pass some guard is all that rules do. -/
theorem rules_walk_eq (name : String) (rules : List Rule)
    (hnodes : Node.allOrdered nodes = true) :
    (Pass.rules name rules).walk ctx nodes = (fun made => exchange made nodes) <$>
      changes (fun n => Option.toList <$> (Pass.rules name rules).node ctx n)
        (outermost (fun n => rules.any fun rule => rule.guard n) nodes) := by
  apply walk_eq_exchange hnodes
  intro n hn
  apply rules_judge_of_not
  intro rule hrule
  simpa using List.any_eq_false.1 hn rule hrule

theorem rendering_node {name : String} {guard : Guard} {fixed : String}
    {write : Node → String → String} {n : Node} (h : guard.passes n = true) :
    (Pass.rules name [rendering guard fixed write]).node ctx n =
      (fun html => some (.text (write n html))) <$>
        Session.request (.renderHtml ctx.title (n.data?.getD fixed)) := by
  have hjudge : (Pass.rules name [rendering guard fixed write]).judge ctx n =
      (rendering guard fixed write).judge ctx n := by
    simp only [Pass.rules, rendering, List.find?_cons, h]
  rw [node_eq, hjudge, rendering, bind_assoc, map_eq_pure_bind]
  rfl

/-- A rule that renders asks for the outermost nodes that pass its guard, and for nothing else. -/
theorem exists_visits (name : String) (guard : Guard) (fixed : String)
    (write : Node → String → String) (hnodes : Node.allOrdered nodes = true) {σ : Type}
    {service : Call → StateM σ Answer}
    (hservice : ∀ call state, ∃ text, (service call state).1 = .ok text) (state : σ) :
    ∃ visits : List ((Position × Node) × String),
      AreOutermost guard.passes nodes (visits.map Prod.fst) ∧
        let pass := Pass.rules name [rendering guard fixed write]
        let run := (pass.walk ctx nodes).observe service state
        run.outcome = .ok (exchange (visits.map fun visit =>
            (visit.1.1, [.text (write visit.1.2 visit.2)])) nodes) ∧
          run.log = visits.map fun visit =>
            (.renderHtml ctx.title (visit.1.2.data?.getD fixed), .ok visit.2) := by
  have houtermost : AreOutermost guard.passes nodes (outermost guard.passes nodes) :=
    areOutermost_outermost hnodes
  have hguard : (fun n => [rendering guard fixed write].any fun rule => rule.guard n) =
      guard.passes := by
    funext n
    simp [rendering]
  have hstops : ∀ stop ∈ outermost guard.passes nodes,
      Prod.mk stop.1 <$> Option.toList <$>
          (Pass.rules name [rendering guard fixed write]).node ctx stop.2 =
        (fun html => (stop.1, [.text (write stop.2 html)])) <$>
          Session.request (.renderHtml ctx.title (stop.2.data?.getD fixed)) := by
    intro stop hstop
    rw [rendering_node (houtermost.holds hstop)]
    simp only [map_eq_pure_bind, bind_assoc, pure_bind]
    rfl
  obtain ⟨visits, hvisits, hvalue, hlog⟩ := Session.observe_mapM_request hservice hstops state
  rw [← hvisits] at houtermost
  have hwalk := @rules_walk_eq ctx _ name [rendering guard fixed write] hnodes
  rw [hguard, map_eq_pure_bind, changes] at hwalk
  refine ⟨visits, houtermost, ?_⟩
  simp only [hwalk, Session.observe_bind_of_ok hvalue]
  exact ⟨rfl, (List.append_nil _).trans hlog⟩

/-- Where no node passes a guard, nothing is done. -/
theorem rules_walk_of_none (name : String) {rules : List Rule}
    (hnodes : Node.allOrdered nodes = true)
    (hnone : ∀ (position : Position) n, position.node? nodes = some n →
      ∀ rule ∈ rules, rule.guard n = false) :
    (Pass.rules name rules).walk ctx nodes = .done nodes := by
  apply walk_of_descend
  intro n hn
  obtain ⟨position, hposition⟩ := (exists_node?_iff_live hnodes).2 hn
  apply rules_judge_of_not
  exact hnone position n hposition

/-- A rule that renders asks for the outermost nodes that pass its guard, in document order, and
    for nothing else. What it writes is put in their places. Of several rules the first
    one whose guard such a node passes judges it, and nothing is done where no guard is passed. -/
theorem rules_visit_outermost (name : String) (ctx : Context) (nodes : Forest)
    (hnodes : Node.allOrdered nodes = true) :
    (∀ (guard : Guard) (fixed : String) (write : Node → String → String) {σ : Type}
        (service : Call → StateM σ Answer) (state : σ),
      (∀ call state, ∃ text, (service call state).1 = .ok text) →
        ∃ visits : List ((Position × Node) × String),
          AreOutermost guard.passes nodes (visits.map Prod.fst) ∧
            let pass := Pass.rules name [rendering guard fixed write]
            let run := (pass.walk ctx nodes).observe service state
            run.outcome = .ok (exchange (visits.map fun visit =>
                (visit.1.1, [.text (write visit.1.2 visit.2)])) nodes) ∧
              run.log = visits.map fun visit =>
                (.renderHtml ctx.title (visit.1.2.data?.getD fixed), .ok visit.2)) ∧
      ∀ rules : List Rule,
        let pass := Pass.rules name rules
        (∃ stops, AreOutermost (fun n => rules.any fun rule => rule.guard n) nodes stops ∧
          (∀ stop ∈ stops, ∃ before rule after, rules = before ++ rule :: after ∧
            rule.guard stop.2 = true ∧ (∀ earlier ∈ before, earlier.guard stop.2 = false) ∧
              pass.node ctx stop.2 = rule.judge ctx stop.2 >>= pass.carryOut ctx) ∧
          pass.walk ctx nodes = (fun made => exchange made nodes) <$>
            changes (fun n => Option.toList <$> pass.node ctx n) stops) ∧
        ((∀ (position : Position) n, position.node? nodes = some n →
          ∀ rule ∈ rules, rule.guard n = false) → pass.walk ctx nodes = .done nodes) := by
  constructor
  · intro guard fixed write σ service state hservice
    exact exists_visits name guard fixed write hnodes hservice state
  · intro rules pass
    have houtermost : AreOutermost (fun n => rules.any fun rule => rule.guard n) nodes _ :=
      areOutermost_outermost hnodes
    refine ⟨⟨_, houtermost, ?_, rules_walk_eq name rules hnodes⟩, rules_walk_of_none name hnodes⟩
    intro stop hstop
    obtain ⟨before, rule, after, hrules, hguard, hbefore, hjudge⟩ :=
      @exists_first_rule ctx name _ _ (houtermost.holds hstop)
    exact ⟨before, rule, after, hrules, hguard, hbefore, by rw [node_eq, hjudge]⟩

/-- Texts in parameters, in items and in a caption, one that nobody sees, and one after them. -/
def scatteredTexts : Forest :=
  [.template "T" [("a", .content [.text "1"]),
      ("b", .list [.content [.text "2"], .text "written",
        .list [.content [.element "p" ∅ [.text "3"], .text "4"]]])],
    .list false [[.text "5"], [], [.block .paragraph [.text "6"]]],
    .notImplemented (.text "hidden"), .image "name" "url" true [.text "7"], .equation "x",
    .text "8"]

theorem rules_visit_outermost_texts :
    let echo : Call → StateM Unit Answer := fun _ state => (.ok "html", state)
    let rule := rendering [.kind .text] "" fun _ html => html
    let run := ((Pass.rules "render" [rule]).walk ⟨"Test", 0⟩ scatteredTexts).observe echo ()
    Node.allOrdered scatteredTexts = true ∧
      run.calls = ["1", "2", "3", "4", "5", "6", "7", "8"].map (.renderHtml "Test") ∧
        ∃ visits : List ((Position × Node) × String),
          AreOutermost (Guard.passes [.kind .text]) scatteredTexts (visits.map Prod.fst) ∧
            run.outcome = .ok
              (exchange (visits.map fun visit => (visit.1.1, [.text visit.2])) scatteredTexts) := by
  intro echo rule run
  have hordered : Node.allOrdered scatteredTexts = true := by decide
  have hservice (call : Call) (state : Unit) : ∃ text, (echo call state).1 = .ok text :=
    ⟨"html", rfl⟩
  obtain ⟨hrenders, -⟩ := rules_visit_outermost "render" ⟨"Test", 0⟩ scatteredTexts hordered
  obtain ⟨visits, hvisits, hvalue, -⟩ :=
    hrenders [.kind .text] "" (fun _ html => html) echo () hservice
  exact ⟨hordered, by decide +kernel, visits, hvisits, hvalue⟩

end Pass

end ArticleTree
