import ArticleTree.Session

/-! # What can be seen of a run

A service may keep a state, and answer the same call differently each time. From outside a
run shows how it ended, which calls the service got, in which order and with which answers,
and the state that the service was left in.
-/

namespace ArticleTree

/-- Calls with their answers, in the order in which they were made. -/
abbrev Log := List (Call × Answer)

/-- A session that was run. -/
structure Run (σ α : Type) where
  outcome : Outcome α
  log : Log
  /-- The state that the service was left in. -/
  state : σ

variable {σ α β : Type}

/-- A service that writes down what it is asked and what it answers. -/
def noting (service : Call → StateM σ Answer) (call : Call) : StateM (Log × σ) Answer :=
  fun (log, state) =>
    let (answer, state) := service call state
    (answer, log ++ [(call, answer)], state)

namespace Outcome

/-- Change the value, if there is one. -/
def map (f : α → β) : Outcome α → Outcome β
  | ok value => .ok (f value)
  | failed reason => .failed reason
  | tooDeep => .tooDeep

theorem map_eq_ok {f : α → β} {outcome : Outcome α} {b : β} :
    outcome.map f = .ok b ↔ ∃ a, outcome = .ok a ∧ f a = b := by
  cases outcome <;> simp [map]

theorem map_eq_failed {f : α → β} {outcome : Outcome α} {reason : Failure} :
    outcome.map f = .failed reason ↔ outcome = .failed reason := by
  cases outcome <;> simp [map]

end Outcome

namespace Run

/-- The run with a call before all others. -/
def after (exchange : Call × Answer) (run : Run σ α) : Run σ α :=
  { run with log := exchange :: run.log }

/-- The run, and behind it what comes of its value. Without a value nothing comes behind it. -/
def andThen (before : Run σ α) (later : α → σ → Run σ β) : Run σ β :=
  match before.outcome with
  | .ok value =>
      let run := later value before.state
      ⟨run.outcome, before.log ++ run.log, run.state⟩
  | .failed reason => ⟨.failed reason, before.log, before.state⟩
  | .tooDeep => ⟨.tooDeep, before.log, before.state⟩

theorem after_andThen (exchange : Call × Answer) (before : Run σ α) (later : α → σ → Run σ β) :
    (before.after exchange).andThen later = (before.andThen later).after exchange := by
  obtain ⟨outcome, log, state⟩ := before
  cases outcome <;> rfl

/-- The calls that were made. -/
def calls (run : Run σ α) : List Call :=
  run.log.map Prod.fst

/-- The calls that failed. -/
def failedCalls (run : Run σ α) : List Call :=
  (run.log.filter fun exchange => !exchange.2.isOk).map Prod.fst

end Run

namespace Session

/-- Run a session, and look at it from outside. -/
def observe (service : Call → StateM σ Answer) (s : Session α) (state : σ) : Run σ α :=
  let noted := s.runM (noting service) ([], state)
  ⟨noted.1, noted.2.1, noted.2.2⟩

variable {service : Call → StateM σ Answer} {state : σ}

@[simp] theorem observe_done (value : α) :
    (done value).observe service state = ⟨.ok value, [], state⟩ := rfl

@[simp] theorem observe_fail (reason : Failure) :
    (fail reason : Session α).observe service state = ⟨.failed reason, [], state⟩ := rfl

@[simp] theorem observe_tooDeep :
    (tooDeep : Session α).observe service state = ⟨.tooDeep, [], state⟩ := rfl

private theorem runM_noting_ask (call : Call) (next : Answer → Session α) (log : Log) :
    (ask call next).runM (noting service) (log, state) =
      (next (service call state).1).runM (noting service)
        (log ++ [(call, (service call state).1)], (service call state).2) := rfl

/-- What was noted before a run stands before what the run notes. -/
theorem runM_noting (s : Session α) (log : Log) (state : σ) :
    s.runM (noting service) (log, state) =
      ((s.observe service state).outcome, log ++ (s.observe service state).log,
        (s.observe service state).state) := by
  simp only [observe]
  induction s generalizing log state with
  | ask call next ih =>
      rw [runM_noting_ask, runM_noting_ask, ih _ (log ++ _), ih _ ([] ++ _)]
      simp only [List.nil_append, List.append_assoc]
  | _ => exact congrArg (fun log => (_, log, state)) (List.append_nil log).symm

theorem observe_ask (call : Call) (next : Answer → Session α) :
    (ask call next).observe service state =
      ((next (service call state).1).observe service (service call state).2).after
        (call, (service call state).1) := by
  rw [observe, runM_noting_ask, runM_noting]
  rfl

/-- What other calls are answered is no matter. -/
theorem run_congr {s : Session α} {answer other : Call → Answer}
    (h : ∀ call ∈ (s.run answer).2, other call = answer call) : s.run other = s.run answer := by
  induction s with
  | ask call next ih =>
      rw [run, List.forall_mem_cons] at h
      rw [run, run, h.1, ih (answer call) h.2]
  | _ => rfl

theorem run_map (f : α → β) (s : Session α) (answer : Call → Answer) :
    (f <$> s).run answer = ((s.run answer).1.map f, (s.run answer).2) := by
  rw [map_eq_pure_bind]
  induction s with
  | ask call next ih =>
      rw [ask_bind]
      simp only [run, ih]
  | _ => rfl

variable {call : Call} {k : String → Session α}

theorem observe_request_of_ok {text : String} (h : (service call state).1 = .ok text) :
    (request call >>= k).observe service state =
      ((k text).observe service (service call state).2).after (call, .ok text) := by
  rw [request, ask_bind, observe_ask, h]
  rfl

theorem observe_request_of_error {reason : Failure} (h : (service call state).1 = .error reason) :
    (request call >>= k).observe service state =
      ⟨.failed reason, [(call, .error reason)], (service call state).2⟩ := by
  rw [request, ask_bind, observe_ask, h]
  rfl

theorem observe_recover_request_of_ok {mend : Failure → Option α} {text : String}
    (h : (service call state).1 = .ok text) :
    ((request call >>= k).recover mend).observe service state =
      (((k text).recover mend).observe service (service call state).2).after (call, .ok text) := by
  rw [request, ask_bind, recover, observe_ask, h]
  rfl

/-- What a session goes on with is asked after what it asked before. -/
theorem observe_bind (s : Session α) (k : α → Session β) (state : σ) :
    (s >>= k).observe service state =
      (s.observe service state).andThen fun value => (k value).observe service := by
  induction s generalizing state with
  | ask call next ih =>
      rw [ask_bind, observe_ask, observe_ask, ih, Run.after_andThen]
  | _ => rfl

theorem observe_bind_of_ok {s : Session α} {k : α → Session β} {value : α}
    (h : (s.observe service state).outcome = .ok value) :
    let before := s.observe service state
    let later := (k value).observe service before.state
    (s >>= k).observe service state = ⟨later.outcome, before.log ++ later.log, later.state⟩ := by
  rw [observe_bind, Run.andThen, h]

/-- What is seen of a session's beginning is all that matters to the whole. -/
theorem observe_bind_congr {s t : Session α}
    (h : ∀ state, s.observe service state = t.observe service state) (k : α → Session β)
    (state : σ) : (s >>= k).observe service state = (t >>= k).observe service state := by
  rw [observe_bind, observe_bind, h]

/-- Looking at a run does not change it. -/
theorem runM_eq_observe (s : Session α) (state : σ) :
    s.runM service state =
      ((s.observe service state).outcome, (s.observe service state).state) := by
  induction s generalizing state with
  | ask call next ih =>
      rw [observe_ask]
      exact ih _ _
  | _ => rfl

end Session

end ArticleTree
