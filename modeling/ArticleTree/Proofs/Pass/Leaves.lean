import ArticleTree.Pass.Chain
import ArticleTree.Proofs.Session.Log
import ArticleTree.Proofs.Session.Returns

/-! # The leaves of a chain

A chain may stand in a chain as one of its stages. Its leaves are the stages that are no chains,
from left to right through all chains inside it. Running a chain is running its leaves, each on
what the one before it made, up to the first that ends without a forest.
-/

namespace ArticleTree

namespace Stage

/-- The stage is no chain. -/
def isLeaf : Stage → Bool
  | pass _ => true
  | step .. => true
  | chain .. => false

mutual

/-- The stages in a stage that are no chains. -/
def leaves : Stage → List Stage
  | pass p => [pass p]
  | step name run => [step name run]
  | chain _ stages => leavesAll stages

/-- The leaves of several stages. -/
def leavesAll : List Stage → List Stage
  | [] => []
  | stage :: stages => stage.leaves ++ leavesAll stages

end

mutual

theorem isLeaf_of_mem_leaves (stage : Stage) {leaf : Stage} (h : leaf ∈ stage.leaves) :
    leaf.isLeaf = true := by
  cases stage with
  | pass p =>
      obtain rfl := List.mem_singleton.1 h
      rfl
  | step name run =>
      obtain rfl := List.mem_singleton.1 h
      rfl
  | chain name stages => exact isLeaf_of_mem_leavesAll stages h

theorem isLeaf_of_mem_leavesAll (stages : List Stage) {leaf : Stage}
    (h : leaf ∈ leavesAll stages) : leaf.isLeaf = true := by
  cases stages with
  | nil => cases h
  | cons stage stages =>
      rcases List.mem_append.1 h with h | h
      · exact isLeaf_of_mem_leaves stage h
      · exact isLeaf_of_mem_leavesAll stages h

end

/-! ## Running the leaves -/

variable {ctx : Context}

theorem runAll_singleton (stage : Stage) (nodes : Forest) :
    runAll ctx [stage] nodes = stage.run ctx nodes := by
  simp only [runAll]
  apply bind_pure

/-- Stages go on with what those before them made. -/
theorem runAll_append (xs ys : List Stage) (nodes : Forest) :
    runAll ctx (xs ++ ys) nodes = runAll ctx xs nodes >>= runAll ctx ys := by
  induction xs generalizing nodes with
  | nil => rfl
  | cons stage stages ih => simp only [List.cons_append, runAll, ih, bind_assoc]

mutual

/-- A stage does what its leaves do. -/
theorem runAll_leaves (stage : Stage) (nodes : Forest) :
    runAll ctx stage.leaves nodes = stage.run ctx nodes := by
  cases stage with
  | pass p => exact runAll_singleton _ nodes
  | step name run => exact runAll_singleton _ nodes
  | chain name stages =>
      simp only [leaves, run]
      exact runAll_leavesAll stages nodes

theorem runAll_leavesAll (stages : List Stage) (nodes : Forest) :
    runAll ctx (leavesAll stages) nodes = runAll ctx stages nodes := by
  cases stages with
  | nil => rfl
  | cons stage stages =>
      rw [leavesAll, runAll_append, runAll_leaves stage, runAll]
      exact bind_congr fun made => runAll_leavesAll stages made

end

/-! ## What is seen of it -/

variable {σ : Type} {service : Call → StateM σ Answer} {nodes : Forest} {state : σ}

/-- The runs of stages, each on what the one before it made and in the state that it left. The
    first that ends without a forest is the last. -/
def runsOf (service : Call → StateM σ Answer) (ctx : Context) :
    List Stage → Forest → σ → List (Stage × Run σ Forest)
  | [], _, _ => []
  | stage :: stages, nodes, state =>
      let run := (stage.run ctx nodes).observe service state
      (stage, run) :: match run.outcome with
        | .ok made => runsOf service ctx stages made run.state
        | _ => []

end Stage

/-- The run is made of these runs, one after the other, of the first ones of the stages. It ends
    as the last of them, and nothing is asked besides. -/
structure Run.Follows {σ : Type} (runs : List (Stage × Run σ Forest)) (stages : List Stage)
    (nodes : Forest) (start : σ) (run : Run σ Forest) : Prop where
  order : runs.map Prod.fst <+: stages
  log : run.log = runs.flatMap fun entry => entry.2.log
  outcome : run.outcome = runs.getLast?.elim (.ok nodes) fun entry => entry.2.outcome
  state : run.state = runs.getLast?.elim start fun entry => entry.2.state
  /-- None that ends without a forest is followed by another. -/
  before : ∀ entry ∈ runs.dropLast, entry.2.outcome.isOk = true
  /-- None is left out if there is a forest in the end. -/
  complete : run.outcome.isOk = true → runs.map Prod.fst = stages

namespace Run.Follows

variable {σ : Type} {runs : List (Stage × Run σ Forest)} {stages : List Stage}
  {nodes made : Forest} {start : σ} {stage : Stage} {first run : Run σ Forest}

theorem alone (h : first.outcome.isOk = false) :
    first.Follows [(stage, first)] (stage :: stages) nodes start where
  order := ⟨stages, rfl⟩
  log := (List.append_nil _).symm
  outcome := rfl
  state := rfl
  before := by simp
  complete hok := absurd hok (by simp [h])

theorem cons (hfirst : first.outcome = .ok made) (h : run.Follows runs stages made first.state) :
    (⟨run.outcome, first.log ++ run.log, run.state⟩ : Run σ Forest).Follows
      ((stage, first) :: runs) (stage :: stages) nodes start where
  order := by simpa using h.order
  log := by simp [h.log]
  outcome := by
    cases runs with
    | nil => simpa [hfirst] using h.outcome
    | cons entry runs => simpa [List.getLast?_cons] using h.outcome
  state := by
    cases runs with
    | nil => simpa using h.state
    | cons entry runs => simpa [List.getLast?_cons] using h.state
  before := by
    intro entry hentry
    cases runs with
    | nil => simp at hentry
    | cons next runs =>
        rcases List.mem_cons.1 hentry with rfl | hentry
        · simp [hfirst, Outcome.isOk]
        · exact h.before entry hentry
  complete hok := by rw [List.map_cons, h.complete hok]

end Run.Follows

namespace Stage

variable {σ : Type} {service : Call → StateM σ Answer} {ctx : Context}

/-- Nothing is done after a stage that ends without a forest. -/
theorem observe_stopped {s : Session Forest} {state : σ} (k : Forest → Session Forest)
    (h : (s.observe service state).outcome.isOk = false) :
    (s >>= k).observe service state = s.observe service state := by
  rw [Session.observe_bind, Run.andThen]
  generalize s.observe service state = run at h ⊢
  obtain ⟨outcome, log, after⟩ := run
  cases outcome with
  | ok made => cases h
  | failed | tooDeep => rfl

theorem follows_runsOf (stages : List Stage) (nodes : Forest) (state : σ) :
    ((runAll ctx stages nodes).observe service state).Follows
      (runsOf service ctx stages nodes state) stages nodes state := by
  induction stages generalizing nodes state with
  | nil => exact ⟨List.prefix_rfl, rfl, rfl, rfl, by simp [runsOf], fun _ => rfl⟩
  | cons stage stages ih =>
      simp only [runAll, runsOf]
      cases hisOk : ((stage.run ctx nodes).observe service state).outcome.isOk with
      | true =>
          obtain ⟨made, houtcome⟩ := Outcome.exists_of_isOk hisOk
          rw [Session.observe_bind_of_ok houtcome, houtcome]
          exact .cons houtcome (ih made _)
      | false =>
          rw [observe_stopped _ hisOk]
          split
          next made houtcome => simp [houtcome, Outcome.isOk] at hisOk
          next => exact .alone hisOk

/-- A stage that ends without a forest ends all, whatever comes after it. -/
theorem observe_runAll_of_stopped {before : List Stage} {stage : Stage} (after : List Stage)
    {nodes made : Forest} {state : σ}
    (hbefore : ((runAll ctx before nodes).observe service state).outcome = .ok made)
    (hstage : ((stage.run ctx made).observe service
      ((runAll ctx before nodes).observe service state).state).outcome.isOk = false) :
    let first := (runAll ctx before nodes).observe service state
    let last := (stage.run ctx made).observe service first.state
    (runAll ctx (before ++ stage :: after) nodes).observe service state =
      ⟨last.outcome, first.log ++ last.log, last.state⟩ := by
  intro first last
  have hlater : (runAll ctx (stage :: after) made).observe service first.state = last :=
    observe_stopped (runAll ctx after) hstage
  rw [runAll_append, Session.observe_bind_of_ok hbefore, hlater]

end Stage

namespace Chain

/-- The leaves of a chain, as a chain. -/
def flat (chain : Chain) : Chain :=
  ⟨chain.name, Stage.leavesAll chain.stages⟩

/-- The stages of one chain, and then those of another. -/
def append (chain other : Chain) : Chain :=
  ⟨chain.name, chain.stages ++ other.stages⟩

/-- Chains within a chain make no difference: whatever the service is, the run is that of the
    leaves from left to right. Two chains in a row are the second on what the first made. A leaf
    that ends without a forest ends the run, and what comes after it is not seen. -/
theorem run_flat (chain : Chain) (ctx : Context) (nodes : Forest) :
    chain.flat.run ctx nodes = chain.run ctx nodes ∧
      (∀ stage ∈ chain.flat.stages, stage.isLeaf = true) ∧
      (∀ other : Chain,
        (chain.append other).run ctx nodes = chain.run ctx nodes >>= other.run ctx) ∧
      ∀ {σ : Type} (service : Call → StateM σ Answer) (state : σ),
        ((chain.run ctx nodes).observe service state).Follows
            (Stage.runsOf service ctx chain.flat.stages nodes state) chain.flat.stages nodes
            state ∧
          ∀ before stage after made, chain.flat.stages = before ++ stage :: after →
            let first := (Stage.runAll ctx before nodes).observe service state
            let last := (stage.run ctx made).observe service first.state
            first.outcome = .ok made → last.outcome.isOk = false →
              (chain.run ctx nodes).observe service state =
                ⟨last.outcome, first.log ++ last.log, last.state⟩ := by
  have hflat : chain.flat.run ctx nodes = chain.run ctx nodes :=
    Stage.runAll_leavesAll chain.stages nodes
  refine ⟨hflat, ?_, ?_, ?_⟩
  · intro stage hstage
    exact Stage.isLeaf_of_mem_leavesAll chain.stages hstage
  · intro other
    apply Stage.runAll_append
  · intro σ service state
    rw [← hflat]
    constructor
    · apply Stage.follows_runsOf
    · intro before stage after made hstages first last hfirst hlast
      rw [run, hstages]
      exact Stage.observe_runAll_of_stopped after hfirst hlast

/-- A step that adds the article's source. -/
def fetching : Stage :=
  .step "fetch" fun ctx nodes => do
    let source ← Session.request (.getContent ctx.title)
    return nodes ++ [.text source]

/-- A step that fails. -/
def failing : Stage :=
  .step "fail" fun _ _ => .fail (.config "stage failed")

/-- A chain that fails deep inside. -/
def nested : Chain :=
  ⟨"outer", [.chain "empty" [], .chain "middle" [fetching, .chain "inner" [fetching, failing]],
    fetching]⟩

theorem run_flat_nested :
    let echo : Call → StateM Unit Answer := fun _ state => (.ok "source", state)
    let fetched : Call × Answer := (.getContent "Test", .ok "source")
    nested.flat.run ⟨"Test", 0⟩ [] = nested.run ⟨"Test", 0⟩ [] ∧
      (∀ stage ∈ [fetching, fetching, failing, fetching], stage.isLeaf = true) ∧
        (nested.run ⟨"Test", 0⟩ []).observe echo () =
          ⟨.failed (.config "stage failed"), [fetched, fetched], ()⟩ := by
  intro echo fetched
  obtain ⟨hflat, hleaves, -, hruns⟩ := run_flat nested ⟨"Test", 0⟩ []
  refine ⟨hflat, hleaves, ?_⟩
  exact (hruns echo ()).2 [fetching, fetching] failing [fetching]
    [.text "source", .text "source"] rfl rfl rfl

end Chain

end ArticleTree
