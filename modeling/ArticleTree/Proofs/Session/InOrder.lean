import ArticleTree.Proofs.Session.Log
import ArticleTree.Proofs.Session.Returns

/-! # Sessions one after the other

Something is done for each thing of a list, and the values are made into one. Seen from outside,
such a session is the runs of its parts in a row: each starts in the state that the one before
left, the first without a value is the last, and nothing is asked besides.
-/

namespace ArticleTree

variable {σ α β γ δ : Type}

/-- The runs for a list of things, with the things. Each run starts in the state that the one
    before left, and the first without a value is the last. -/
def runsOf (service : Call → StateM σ Answer) (f : α → Session β) :
    σ → List α → List (α × Run σ β)
  | _, [] => []
  | state, a :: as =>
      let run := (f a).observe service state
      (a, run) :: if run.outcome.isOk then runsOf service f run.state as else []

/-- The run consists of those for the things, in their order, and ends with what is made of their
    values, or as the first ends that has no value. -/
structure Run.Collects (runs : List (α × Run σ β)) (things : List α) (start : σ)
    (made : List β → γ → Prop) (run : Run σ γ) : Prop where
  order : runs.map Prod.fst <+: things
  /-- Nothing is asked besides. -/
  log : run.log = runs.flatMap fun entry => entry.2.log
  state : run.state = runs.getLast?.elim start fun entry => entry.2.state
  ok : ∀ value, run.outcome = .ok value → runs.map Prod.fst = things ∧
    ∃ values, runs.map (fun entry => entry.2.outcome) = values.map .ok ∧ made values value
  stopped : run.outcome.isOk = false → ∃ before last, runs = before ++ [last] ∧
    (∀ entry ∈ before, entry.2.outcome.isOk = true) ∧
      last.2.outcome.map (fun _ => ()) = run.outcome.map fun _ => ()

namespace Session

/-- So does every run of the session with the service. -/
def Collects (service : Call → StateM σ Answer) (f : α → Session β) (things : List α)
    (made : List β → γ → Prop) (s : Session γ) : Prop :=
  ∀ state, (s.observe service state).Collects (runsOf service f state things) things state made

variable {service : Call → StateM σ Answer} {f : α → Session β} {things : List α}
  {made : List β → γ → Prop}

theorem collects_done {value : γ} (h : made [] value) :
    (done value).Collects service f [] made := by
  intro state
  refine ⟨List.prefix_rfl, rfl, rfl, ?_, fun h => by cases h⟩
  intro value' hvalue
  cases hvalue
  exact ⟨rfl, [], rfl, h⟩

/-- What is seen of the session is all that matters. -/
theorem Collects.congr {s t : Session γ} (hs : s.Collects service f things made)
    (h : ∀ state, t.observe service state = s.observe service state) :
    t.Collects service f things made := by
  intro state
  rw [h]
  exact hs state

/-- What comes after a session without a value makes no difference. -/
theorem exists_observe_bind_of_not_isOk {s : Session γ} {state : σ}
    (h : (s.observe service state).outcome.isOk = false) (k : γ → Session δ) :
    ∃ outcome : Outcome δ, outcome.isOk = false ∧
      outcome.map (fun _ => ()) = (s.observe service state).outcome.map (fun _ => ()) ∧
      (s >>= k).observe service state =
        ⟨outcome, (s.observe service state).log, (s.observe service state).state⟩ := by
  rw [observe_bind, Run.andThen]
  cases houtcome : (s.observe service state).outcome with
  | ok value =>
      rw [houtcome] at h
      cases h
  | failed reason => exact ⟨.failed reason, rfl, rfl, rfl⟩
  | tooDeep => exact ⟨.tooDeep, rfl, rfl, rfl⟩

/-- What is made of the value is made of the values. -/
theorem Collects.map {made' : List β → δ → Prop} {s : Session γ} {g : γ → δ}
    (hs : s.Collects service f things made)
    (h : ∀ values value, made values value → made' values (g value)) :
    (g <$> s).Collects service f things made' := by
  intro state
  obtain ⟨horder, hlog, hstate, hok, hstopped⟩ := hs state
  rw [map_eq_pure_bind]
  cases hisOk : (s.observe service state).outcome.isOk with
  | true =>
      obtain ⟨value, houtcome⟩ := Outcome.exists_of_isOk hisOk
      rw [observe_bind_of_ok houtcome]
      refine ⟨horder, (List.append_nil _).trans hlog, hstate, ?_, fun hfailed => by cases hfailed⟩
      intro value' hvalue'
      cases hvalue'
      obtain ⟨hthings, values, hvalues, hmade⟩ := hok value houtcome
      exact ⟨hthings, values, hvalues, h values value hmade⟩
  | false =>
      obtain ⟨outcome, hnot, hsame, hobserve⟩ :=
        exists_observe_bind_of_not_isOk hisOk fun value => pure (g value)
      rw [hobserve]
      refine ⟨horder, hlog, hstate, ?_, fun _ => hsame ▸ hstopped hisOk⟩
      rintro value rfl
      cases hnot

/-- The first thing, and then the others. -/
theorem Collects.cons {a : α} {k : β → Session γ}
    (hk : ∀ b, (k b).Collects service f things fun values => made (b :: values)) :
    (f a >>= k).Collects service f (a :: things) made := by
  intro state
  cases hisOk : ((f a).observe service state).outcome.isOk with
  | true =>
      obtain ⟨b, houtcome⟩ := Outcome.exists_of_isOk hisOk
      have hlater := hk b ((f a).observe service state).state
      rw [observe_bind_of_ok houtcome]
      simp only [runsOf, hisOk, if_true]
      refine ⟨?_, ?_, ?_, ?_, ?_⟩
      · simpa using hlater.order
      · simpa using hlater.log
      · rw [List.getLast?_cons, hlater.state]
        cases (runsOf service f ((f a).observe service state).state things).getLast? <;> rfl
      · intro value hvalue
        obtain ⟨hthings, values, hvalues, hmade⟩ := hlater.ok value hvalue
        exact ⟨by rw [List.map_cons, hthings], b :: values,
          by rw [List.map_cons, hvalues, houtcome]; rfl, hmade⟩
      · intro hfailed
        obtain ⟨before, last, hruns, hbefore, hlast⟩ := hlater.stopped hfailed
        refine ⟨_ :: before, last, by rw [hruns]; rfl, ?_, hlast⟩
        exact List.forall_mem_cons.2 ⟨hisOk, hbefore⟩
  | false =>
      obtain ⟨outcome, hnot, hsame, hobserve⟩ := exists_observe_bind_of_not_isOk hisOk k
      rw [hobserve]
      simp only [runsOf, hisOk, Bool.false_eq_true, if_false]
      refine ⟨⟨things, rfl⟩, by simp, rfl, ?_, fun _ => ⟨[], _, rfl, by simp, hsame.symm⟩⟩
      rintro value rfl
      cases hnot

end Session

end ArticleTree
