import ArticleTree.Session
import Mathlib.Data.List.Forall2

/-! # What a session can return

A content service may answer the same call differently each time. `Returns` says that some
answers lead a session to a value, so what holds of every value a session returns holds
whatever the service is. The lemmas take sessions apart as they are put together, and
`returns_of_runM` is the way back to a run with a service of its own state.
-/

namespace ArticleTree.Session

variable {α β : Type}

/-- Some answers lead the session to the value. -/
inductive Returns : Session α → α → Prop where
  | done (value : α) : Returns (done value) value
  | ask {call : Call} {next : Answer → Session α} {value : α} (answer : Answer) :
      Returns (next answer) value → Returns (ask call next) value

@[simp] theorem returns_done {a b : α} : (done a).Returns b ↔ b = a := by
  constructor
  · intro h
    cases h
    rfl
  · rintro rfl
    exact .done b

@[simp] theorem not_returns_fail {reason : Failure} {a : α} :
    ¬ (fail reason : Session α).Returns a := by
  intro h
  cases h

@[simp] theorem not_returns_tooDeep {a : α} : ¬ (tooDeep : Session α).Returns a := by
  intro h
  cases h

theorem returns_ask {call : Call} {next : Answer → Session α} {a : α} :
    (Session.ask call next).Returns a ↔ ∃ answer, (next answer).Returns a := by
  constructor
  · intro h
    cases h with
    | ask answer h => exact ⟨answer, h⟩
  · rintro ⟨answer, h⟩
    exact .ask answer h

@[simp] theorem returns_bind {s : Session α} {k : α → Session β} {b : β} :
    (s >>= k).Returns b ↔ ∃ a, s.Returns a ∧ (k a).Returns b := by
  induction s with
  | done value => simp
  | fail reason => simp
  | tooDeep => simp
  | ask call next ih =>
      simp only [ask_bind, returns_ask, ih]
      constructor
      · rintro ⟨answer, a, ha, hb⟩
        exact ⟨a, ⟨answer, ha⟩, hb⟩
      · rintro ⟨a, ⟨answer, ha⟩, hb⟩
        exact ⟨answer, a, ha, hb⟩

@[simp] theorem returns_map {s : Session α} {f : α → β} {b : β} :
    (f <$> s).Returns b ↔ ∃ a, s.Returns a ∧ b = f a := by
  rw [map_eq_pure_bind]
  simp

@[simp] theorem returns_ofExcept {e : Except Failure α} {a : α} :
    (ofExcept e).Returns a ↔ e = .ok a := by
  cases e <;> simp [ofExcept, eq_comm]

/-- A session that is mended returns what it returned before, or what mends a failure. -/
theorem returns_of_recover {mend : Failure → Option α} {s : Session α} {a : α}
    (h : (s.recover mend).Returns a) : s.Returns a ∨ ∃ reason, mend reason = some a := by
  induction s with
  | done value => exact .inl h
  | tooDeep => exact .inl h
  | fail reason =>
      simp only [recover] at h
      cases hmend : mend reason with
      | none => simp [hmend] at h
      | some value =>
          simp only [hmend, returns_done] at h
          exact .inr ⟨reason, h ▸ hmend⟩
  | ask call next ih =>
      obtain ⟨answer, h⟩ := returns_ask.1 h
      exact (ih answer h).imp_left (.ask answer)

/-- A list of sessions, one after the other, returns the list of what each returns. -/
theorem returns_mapM {f : α → Session β} {as : List α} {bs : List β} :
    (as.mapM f).Returns bs ↔ List.Forall₂ (fun a b => (f a).Returns b) as bs := by
  induction as generalizing bs with
  | nil => cases bs <;> simp
  | cons a as ih =>
      rw [List.mapM_cons]
      cases bs with
      | nil => simp
      | cons b bs => simp [ih]

/-- What one of the sessions returned, one of the things they were made from led to. -/
theorem exists_of_forall₂_of_mem {R : α → β → Prop} {as : List α} {bs : List β}
    (h : List.Forall₂ R as bs) {b : β} (hb : b ∈ bs) : ∃ a ∈ as, R a b := by
  induction h with
  | nil => cases hb
  | cons hr _ ih =>
      rcases List.mem_cons.1 hb with rfl | hb
      · exact ⟨_, List.mem_cons_self, hr⟩
      · obtain ⟨a, ha, hr⟩ := ih hb
        exact ⟨a, List.mem_cons_of_mem _ ha, hr⟩

/-- Whatever state a service keeps between its answers, a run with it ends only with
    values that the session returns. -/
theorem returns_of_runM {σ : Type} {service : Call → StateM σ Answer} {s : Session α}
    {state : σ} {a : α} (h : (s.runM service state).1 = .ok a) : s.Returns a := by
  induction s generalizing state with
  | done value =>
      cases h
      exact .done a
  | fail reason => cases h
  | tooDeep => cases h
  | ask call next ih => exact .ask _ (ih _ h)

end ArticleTree.Session

namespace ArticleTree.Outcome

variable {α : Type}

/-- The outcome has a value. -/
def isOk : Outcome α → Bool
  | .ok _ => true
  | _ => false

theorem exists_of_isOk {o : Outcome α} (h : o.isOk = true) : ∃ value, o = .ok value := by
  cases o with
  | ok value => exact ⟨value, rfl⟩
  | failed | tooDeep => cases h

end ArticleTree.Outcome
