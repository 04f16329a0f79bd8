import ArticleTree.Proofs.Session.Log

/-! # Sessions that end with the first failure

A session fails fast if it does not go on once the service has failed it. That is a property
of the tree of questions, kept by everything that sessions are put together with, and it says
what every run looks like, however the service comes to its answers.

One place in the program does go on from failures, those about the shape of a node. So
answers that are such failures are left out here, and whoever runs a session has to know that
the service does not give them.
-/

namespace ArticleTree

/-- The service never answers with a failure about the shape of a node. -/
def NeverStructural {σ : Type} (service : Call → StateM σ Answer) : Prop :=
  ∀ call state reason, (service call state).1 = .error reason → reason.isStructural = false

namespace Session

variable {α β : Type} {asks : Call → Prop} {own : Failure → Prop}

/-- All calls are as they should be, the service's failures end the session as they are, and
    what else the session fails with is of its own kind. -/
inductive FailsFast (asks : Call → Prop) (own : Failure → Prop) : Session α → Prop where
  | done (value : α) : FailsFast asks own (done value)
  | fail {reason : Failure} : own reason → FailsFast asks own (fail reason)
  | tooDeep : FailsFast asks own tooDeep
  | ask {call : Call} {next : Answer → Session α} : asks call →
      (∀ text, FailsFast asks own (next (.ok text))) →
      (∀ reason, reason.isStructural = false → next (.error reason) = .fail reason) →
      FailsFast asks own (ask call next)

/-! ## What sessions are put together with -/

namespace FailsFast

theorem mono {asks' : Call → Prop} {own' : Failure → Prop} {s : Session α}
    (h : s.FailsFast asks own) (hasks : ∀ call, asks call → asks' call)
    (hown : ∀ reason, own reason → own' reason) : s.FailsFast asks' own' := by
  induction h with
  | done value => exact .done value
  | fail hreason => exact .fail (hown _ hreason)
  | tooDeep => exact .tooDeep
  | ask hcall _ hfail ih => exact .ask (hasks _ hcall) ih hfail

theorem bind {s : Session α} {k : α → Session β} (hs : s.FailsFast asks own)
    (hk : ∀ a, (k a).FailsFast asks own) : (s >>= k).FailsFast asks own := by
  induction hs with
  | done value => exact hk value
  | fail hreason => exact .fail hreason
  | tooDeep => exact .tooDeep
  | @ask call next hcall _ hfail ih =>
      refine .ask hcall ih ?_
      intro reason hreason
      change next (.error reason) >>= k = _
      rw [hfail reason hreason, fail_bind]

theorem map {s : Session α} (hs : s.FailsFast asks own) (f : α → β) :
    (f <$> s).FailsFast asks own := by
  rw [map_eq_pure_bind]
  exact hs.bind fun _ => .done _

theorem mapM {f : α → Session β} {as : List α} (h : ∀ a ∈ as, (f a).FailsFast asks own) :
    (as.mapM f).FailsFast asks own := by
  induction as with
  | nil => exact .done []
  | cons a as ih =>
      obtain ⟨ha, has⟩ := List.forall_mem_cons.1 h
      rw [List.mapM_cons]
      exact ha.bind fun _ => (ih has).bind fun _ => .done _

theorem ofExcept {e : Except Failure α} (h : ∀ reason, e = .error reason → own reason) :
    (Session.ofExcept e).FailsFast asks own := by
  cases e with
  | ok value => exact .done value
  | error reason => exact .fail (h reason rfl)

theorem request {call : Call} (h : asks call) : (request call).FailsFast asks own :=
  .ask h (fun text => .done text) fun _ _ => rfl

/-- Going on from a session's own failures does no harm, if only failures about the shape of a
    node are mended: those come from no service. -/
theorem recover {own' : Failure → Prop} {mend : Failure → Option α} {s : Session α}
    (h : s.FailsFast asks own) (hmend : ∀ reason, reason.isStructural = false → mend reason = none)
    (hown : ∀ reason, own reason → mend reason = none → own' reason) :
    (s.recover mend).FailsFast asks own' := by
  induction h with
  | done value => exact .done value
  | tooDeep => exact .tooDeep
  | @fail reason hreason =>
      simp only [Session.recover]
      cases hvalue : mend reason with
      | some value => exact .done value
      | none => exact .fail (hown reason hreason hvalue)
  | @ask call next hcall _ hfail ih =>
      refine .ask hcall ih ?_
      intro reason hreason
      rw [hfail reason hreason]
      simp only [Session.recover, hmend reason hreason]

end FailsFast

end Session

/-! ## Runs -/

namespace Run

variable {σ α : Type}

/-- The run ends with the first failure of the service. It fails for no other reason but those
    of the session's own, and never for the shape of a node. -/
structure FailedFast (own : Failure → Prop) (run : Run σ α) : Prop where
  /-- A failure is the session's own, or what the last call was answered with. -/
  cause : ∀ reason, run.outcome = .failed reason →
    own reason ∨ ∃ call, run.log.getLast? = some (call, .error reason)
  notStructural : ∀ reason, run.outcome = .failed reason → reason.isStructural = false
  /-- A call that fails is the last one, and its failure is the outcome. -/
  last : ∀ before call reason later, run.log = before ++ (call, .error reason) :: later →
    later = [] ∧ run.outcome = .failed reason

variable {own : Failure → Prop} {run : Run σ α} {call : Call}

theorem failedFast_of_nil (hlog : run.log = [])
    (hown : ∀ reason, run.outcome = .failed reason → own reason)
    (hstructural : ∀ reason, own reason → reason.isStructural = false) : run.FailedFast own where
  cause reason hfailed := .inl (hown reason hfailed)
  notStructural reason hfailed := hstructural reason (hown reason hfailed)
  last before call reason later hsplit := by simp [hlog] at hsplit

/-- A call that succeeds may come before. -/
theorem FailedFast.after_ok (h : run.FailedFast own) (text : String) :
    (run.after (call, .ok text)).FailedFast own where
  cause reason hfailed := by
    refine (h.cause reason hfailed).imp_right ?_
    rintro ⟨last, hlast⟩
    exact ⟨last, by simp [after, List.getLast?_cons, hlast]⟩
  notStructural := h.notStructural
  last before failed reason later hsplit := by
    cases before with
    | nil => cases hsplit
    | cons first before =>
        obtain ⟨-, hsplit⟩ := List.cons.inj hsplit
        exact h.last before failed reason later hsplit

/-- No call failed, if the run did not. -/
theorem FailedFast.failedCalls_of_ok (h : run.FailedFast own) {value : α}
    (hok : run.outcome = .ok value) : run.failedCalls = [] := by
  rw [failedCalls, List.map_eq_nil_iff, List.filter_eq_nil_iff]
  rintro ⟨call, answer⟩ hmem
  cases answer with
  | ok text => simp [Except.isOk, Except.toBool]
  | error reason =>
      obtain ⟨before, later, hsplit⟩ := List.append_of_mem hmem
      rw [(h.last before call reason later hsplit).2] at hok
      cases hok

/-- No more than one call fails. -/
theorem FailedFast.failedCalls_of_mem (h : run.FailedFast own) {reason : Failure}
    (hmem : (call, .error reason) ∈ run.log) :
    run.outcome = .failed reason ∧ run.failedCalls = [call] := by
  obtain ⟨before, later, hsplit⟩ := List.append_of_mem hmem
  obtain ⟨rfl, hfailed⟩ := h.last before call reason later hsplit
  refine ⟨hfailed, ?_⟩
  have hbefore : before.filter (fun exchange => !exchange.2.isOk) = [] := by
    rw [List.filter_eq_nil_iff]
    rintro ⟨other, answer⟩ hother
    cases answer with
    | ok text => simp [Except.isOk, Except.toBool]
    | error reason' =>
        obtain ⟨first, second, rfl⟩ := List.append_of_mem hother
        have hlast := h.last first other reason' (second ++ [(call, .error reason)])
          (by simp [hsplit])
        simp at hlast
  rw [failedCalls, hsplit, List.filter_append, hbefore]
  rfl

theorem failedFast_of_error {reason : Failure} (hreason : reason.isStructural = false) (state : σ) :
    (⟨.failed reason, [(call, .error reason)], state⟩ : Run σ α).FailedFast own where
  cause reason' hfailed := by
    cases hfailed
    exact .inr ⟨call, rfl⟩
  notStructural reason' hfailed := by
    cases hfailed
    exact hreason
  last before failed reason' later hsplit := by
    cases before with
    | nil =>
        cases hsplit
        exact ⟨rfl, rfl⟩
    | cons first before => simp at hsplit

end Run

namespace Session

variable {σ α : Type} {asks : Call → Prop} {own : Failure → Prop}
  {service : Call → StateM σ Answer} {s : Session α}

/-- The calls that a run makes are those that the session may make. -/
theorem FailsFast.forall_mem_log (h : s.FailsFast asks own) (hservice : NeverStructural service)
    (state : σ) : ∀ exchange ∈ (s.observe service state).log, asks exchange.1 := by
  induction h generalizing state with
  | @ask call next hcall _ hfail ih =>
      rw [observe_ask]
      refine List.forall_mem_cons.2 ⟨hcall, ?_⟩
      cases hanswer : (service call state).1 with
      | ok text => exact ih text _
      | error reason => simp [hfail reason (hservice call state reason hanswer)]
  | _ => simp

/-- A session that fails fast, run with a service that never complains about the shape of a
    node, ends with the first failure of the service. -/
theorem FailsFast.failedFast (h : s.FailsFast asks own)
    (hown : ∀ reason, own reason → reason.isStructural = false)
    (hservice : NeverStructural service) (state : σ) :
    (s.observe service state).FailedFast own := by
  induction h generalizing state with
  | done value => exact Run.failedFast_of_nil rfl (by simp) hown
  | tooDeep => exact Run.failedFast_of_nil rfl (by simp) hown
  | fail hreason =>
      refine Run.failedFast_of_nil rfl ?_ hown
      intro reason hfailed
      cases hfailed
      exact hreason
  | @ask call next _ _ hfail ih =>
      rw [observe_ask]
      cases hanswer : (service call state).1 with
      | ok text => exact (ih text _).after_ok text
      | error reason =>
          have hreason := hservice call state reason hanswer
          rw [hfail reason hreason]
          exact Run.failedFast_of_error hreason _

/-- Failures that a session does not go on from may as well be mended behind it only. -/
theorem FailsFast.observe_recover_bind {β : Type} {mend : Failure → Option β} {k : α → Session β}
    (h : s.FailsFast asks own)
    (hmend : ∀ reason, reason.isStructural = false → mend reason = none)
    (hown : ∀ reason, own reason → reason.isStructural = false)
    (hservice : NeverStructural service) (state : σ) :
    ((s >>= k).recover mend).observe service state =
      (s >>= fun a => (k a).recover mend).observe service state := by
  induction h generalizing state with
  | done value => rfl
  | tooDeep => rfl
  | @fail reason hreason =>
      have hnone := hmend reason (hown reason hreason)
      simp only [fail_bind, Session.recover, hnone]
  | @ask call next _ _ hfail ih =>
      simp only [ask_bind, Session.recover, observe_ask]
      cases hanswer : (service call state).1 with
      | ok text => rw [ih text]
      | error reason =>
          have hreason := hservice call state reason hanswer
          simp only [hfail reason hreason, fail_bind, Session.recover, hmend reason hreason]

end Session

end ArticleTree
