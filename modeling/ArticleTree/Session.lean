import ArticleTree.Failure

/-! # Sessions with the content service

Converting an article asks a content service for the article's source and for the
rendering of markup. A `Session` is such a conversion with the answers left open: it ends
with a value or a failure, or it asks and goes on with the answer. Handing it to a service
is a separate step, so one session can be answered by a wiki, from a cache, or by a table
of fixed answers, and the calls that it makes can be listed.
-/

namespace ArticleTree

/-- A call of the content service. -/
inductive Call where
  /-- The source of an article. -/
  | getContent (title : String)
  /-- The rendering of markup as a part of an article. -/
  | renderHtml (title text : String)
  deriving DecidableEq, Repr

/-- What the content service answers to a call. -/
abbrev Answer := Except Failure String

/-- A conversion that may ask the content service on its way to a value. -/
inductive Session (α : Type) where
  | done (value : α)
  | fail (reason : Failure)
  /-- Content is nested in content more deeply than the session was allowed to go. -/
  | tooDeep
  | ask (call : Call) (next : Answer → Session α)

namespace Session

variable {α β : Type}

/-- Go on with the value of a session. -/
def bind : Session α → (α → Session β) → Session β
  | done value, k => k value
  | fail reason, _ => fail reason
  | tooDeep, _ => tooDeep
  | ask call next, k => ask call fun answer => (next answer).bind k

instance : Monad Session where
  pure := done
  bind := bind

@[simp] theorem pure_eq (value : α) : (pure value : Session α) = done value := rfl

@[simp] theorem done_bind (value : α) (k : α → Session β) : done value >>= k = k value := rfl

@[simp] theorem fail_bind (reason : Failure) (k : α → Session β) :
    (fail reason : Session α) >>= k = fail reason := rfl

@[simp] theorem tooDeep_bind (k : α → Session β) : (tooDeep : Session α) >>= k = tooDeep := rfl

@[simp] theorem ask_bind (call : Call) (next : Answer → Session α) (k : α → Session β) :
    ask call next >>= k = ask call fun answer => next answer >>= k := rfl

instance : LawfulMonad Session :=
  LawfulMonad.mk' Session
    (fun s => by
      induction s with
      | ask call next ih => exact congrArg (ask call) (funext ih)
      | _ => rfl)
    (fun _ _ => rfl)
    (fun s f g => by
      induction s with
      | ask call next ih => exact congrArg (ask call) (funext ih)
      | _ => rfl)

/-- Ask for something, and fail as the service fails. -/
def request (call : Call) : Session String :=
  ask call fun
    | .ok text => done text
    | .error reason => fail reason

/-- End with the value or the failure. -/
def ofExcept : Except Failure α → Session α
  | .ok value => done value
  | .error reason => fail reason

/-- Go on from those failures for which `mend` has a value. -/
def recover (mend : Failure → Option α) : Session α → Session α
  | done value => done value
  | fail reason =>
      match mend reason with
      | some value => done value
      | none => fail reason
  | tooDeep => tooDeep
  | ask call next => ask call fun answer => (next answer).recover mend

end Session

/-- How a session ends. -/
inductive Outcome (α : Type) where
  | ok (value : α)
  | failed (reason : Failure)
  | tooDeep
  deriving DecidableEq

namespace Session

variable {α : Type}

/-- Hand a session to a service with effects of its own. -/
def runM {m : Type → Type} [Monad m] (answer : Call → m Answer) : Session α → m (Outcome α)
  | done value => pure (.ok value)
  | fail reason => pure (.failed reason)
  | tooDeep => pure .tooDeep
  | ask call next => do (next (← answer call)).runM answer

/-- Hand a session to a service that always answers the same call alike. The calls are
    listed in the order in which they were made, the failing ones too. -/
def run (answer : Call → Answer) : Session α → Outcome α × List Call
  | done value => (.ok value, [])
  | fail reason => (.failed reason, [])
  | tooDeep => (.tooDeep, [])
  | ask call next =>
      let (outcome, calls) := (next (answer call)).run answer
      (outcome, call :: calls)

end Session

end ArticleTree
