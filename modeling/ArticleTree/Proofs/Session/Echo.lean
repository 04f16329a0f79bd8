import ArticleTree.Proofs.Session.Log
import ArticleTree.Proofs.Session.Returns

/-! # Sessions whose markup is rendered to itself

Two sessions are run next to each other, and whatever one of them asks to be rendered is rendered
to itself. If they ask for the same and end alike, and neither goes too deep, then no run can tell
them apart. The relation is kept by everything that sessions are put together with. What follows a
session only has to be looked at for the values that the session returns.
-/

namespace ArticleTree

/-- The service renders every text to itself. -/
def RendersItself {σ : Type} (service : Call → StateM σ Answer) : Prop :=
  ∀ title text state, (service (.renderHtml title text) state).1 = .ok text

/-- The call asks for the rendering of a text that is shorter than this. -/
def Call.RendersBelow (title : String) (n : Nat) (call : Call) : Prop :=
  ∃ text, call = .renderHtml title text ∧ text.length < n

namespace Session

variable {α β : Type} {title : String} {n : Nat}

/-- Both sessions ask to render the same texts, all of them shorter than this, and if they get
    these texts back, both end alike, and in time. -/
inductive Echoes (title : String) (n : Nat) : Session α → Session α → Prop where
  | done (value : α) : Echoes title n (done value) (done value)
  | fail (reason : Failure) : Echoes title n (fail reason) (fail reason)
  | ask {text : String} {next next' : Answer → Session α} : text.length < n →
      Echoes title n (next (.ok text)) (next' (.ok text)) →
      Echoes title n (ask (.renderHtml title text) next) (ask (.renderHtml title text) next')

namespace Echoes

theorem bind {s s' : Session α} {k k' : α → Session β} (hs : s.Echoes title n s')
    (hk : ∀ a, s.Returns a → (k a).Echoes title n (k' a)) :
    (s >>= k).Echoes title n (s' >>= k') := by
  induction hs with
  | done value => exact hk value (.done value)
  | fail reason => exact .fail reason
  | ask htext _ ih => exact .ask htext (ih fun a ha => hk a (.ask _ ha))

theorem map {s s' : Session α} (hs : s.Echoes title n s') (f : α → β) :
    (f <$> s).Echoes title n (f <$> s') := by
  rw [map_eq_pure_bind, map_eq_pure_bind]
  exact hs.bind fun _ _ => .done _

theorem mapM {f f' : α → Session β} {as : List α}
    (h : ∀ a ∈ as, (f a).Echoes title n (f' a)) : (as.mapM f).Echoes title n (as.mapM f') := by
  induction as with
  | nil => exact .done []
  | cons a as ih =>
      obtain ⟨ha, has⟩ := List.forall_mem_cons.1 h
      rw [List.mapM_cons, List.mapM_cons]
      exact ha.bind fun _ _ => (ih has).bind fun _ _ => .done _

theorem ofExcept (e : Except Failure α) :
    (Session.ofExcept e).Echoes title n (Session.ofExcept e) := by
  cases e with
  | ok value => exact .done value
  | error reason => exact .fail reason

theorem recover {s s' : Session α} (hs : s.Echoes title n s') (mend : Failure → Option α) :
    (s.recover mend).Echoes title n (s'.recover mend) := by
  induction hs with
  | done value => exact .done value
  | fail reason =>
      rw [Session.recover]
      split
      · exact .done _
      · exact .fail reason
  | ask htext _ ih => exact .ask htext ih

variable {σ : Type} {service : Call → StateM σ Answer} {s s' : Session α}

theorem observe_eq (h : s.Echoes title n s') (hservice : RendersItself service) (state : σ) :
    s.observe service state = s'.observe service state := by
  induction h generalizing state with
  | done value => rfl
  | fail reason => rfl
  | ask _ _ ih => rw [observe_ask, observe_ask, hservice, ih]

theorem outcome_ne (h : s.Echoes title n s') (hservice : RendersItself service) (state : σ) :
    (s.observe service state).outcome ≠ .tooDeep := by
  induction h generalizing state with
  | done value => simp
  | fail reason => simp
  | ask _ _ ih =>
      rw [observe_ask, hservice]
      exact ih _

theorem forall_mem_calls (h : s.Echoes title n s') (hservice : RendersItself service) (state : σ) :
    ∀ call ∈ (s.observe service state).calls, call.RendersBelow title n := by
  induction h generalizing state with
  | done value => simp [Run.calls]
  | fail reason => simp [Run.calls]
  | @ask text next _ htext _ ih =>
      rw [observe_ask, hservice]
      exact List.forall_mem_cons.2 ⟨⟨text, rfl, htext⟩, ih _⟩

end Echoes

end Session

end ArticleTree
