import ArticleTree.Proofs.Cache.Repeated

/-! # Stores that only hold what was answered

A store may come from conversions that are long over. All that has to be known of it is that
every text in it was the answer to some call with its key. If calls with one key are answered
alike, a conversion behind such a store ends as it does without one, and leaves a store of this
kind, even if it fails on the way.
-/

namespace ArticleTree.Cache

/-- Every text of the store is what one of the calls was answered. -/
structure Store.Truthful (digest : String → String) (inner : Call → Answer) (asked : List Call)
    (store : Store) : Prop where
  ascending : Keyed.Ascending store.entries
  answered : ∀ key text, store.get? key = some text →
    ∃ call ∈ asked, call.key digest = key ∧ inner call = .ok text

variable {digest : String → String} {inner : Call → Answer} {asked more : List Call} {call : Call}
  {store : Store} {memo : Memo}

/-- Calls that have the same key are answered alike. -/
def KeysAgree (digest : String → String) (inner : Call → Answer) (calls : List Call) : Prop :=
  ∀ a ∈ calls, ∀ b ∈ calls, a.key digest = b.key digest → inner a = inner b

theorem KeysAgree.mono (h : KeysAgree digest inner more) (hsub : asked ⊆ more) :
    KeysAgree digest inner asked :=
  fun a ha b hb => h a (hsub ha) b (hsub hb)

theorem keysAgree_of_forall_eq {answer : Answer} (h : ∀ call ∈ asked, inner call = answer) :
    KeysAgree digest inner asked :=
  fun a ha b hb _ => (h a ha).trans (h b hb).symm

namespace Store

theorem truthful_empty : Store.empty.Truthful digest inner asked where
  ascending := Keyed.ascending_nil
  answered key text h := by cases h

theorem Truthful.mono (h : store.Truthful digest inner asked) (hsub : asked ⊆ more) :
    store.Truthful digest inner more where
  ascending := h.ascending
  answered key text hget := by
    obtain ⟨call, hmem, hcall⟩ := h.answered key text hget
    exact ⟨call, hsub hmem, hcall⟩

theorem Truthful.inner_eq (h : store.Truthful digest inner asked)
    (hkeys : KeysAgree digest inner asked) (hcall : call ∈ asked) {text : String}
    (hget : store.get? (call.key digest) = some text) : inner call = .ok text := by
  obtain ⟨other, hmem, hkey, hok⟩ := h.answered _ _ hget
  rw [← hkeys other hmem call hcall hkey, hok]

theorem Truthful.put (h : store.Truthful digest inner asked) (hcall : call ∈ asked)
    {text : String} (hok : inner call = .ok text) :
    (store.put (call.key digest) text).Truthful digest inner asked where
  ascending := h.ascending.insert _ _
  answered := by
    intro key text' hget
    rw [Front.get?_put] at hget
    split at hget
    · rename_i hkey
      cases hget
      exact ⟨call, hcall, hkey, hok⟩
    · exact h.answered key text' hget

end Store

namespace Memo

/-- A cache as a content service, in front of one that always answers a call alike. -/
def service (digest : String → String) (inner : Call → Answer) : Call → StateM Memo Answer :=
  fun call memo => memo.answer (m := Id) digest inner call

theorem service_of_hit {text : String} (h : memo.store.get? (call.key digest) = some text) :
    service digest inner call memo = (.ok text, { memo with hits := memo.hits + 1 }) := by
  simp only [service, answer, h]
  rfl

theorem service_of_miss (h : memo.store.get? (call.key digest) = none) :
    service digest inner call memo =
      (inner call,
        remember (call.key digest) (inner call) { memo with misses := memo.misses + 1 }) := by
  simp only [service, answer, h]
  rfl

theorem service_truthful (h : memo.store.Truthful digest inner asked)
    (hkeys : KeysAgree digest inner asked) (hcall : call ∈ asked) :
    (service digest inner call memo).1 = inner call ∧
      (service digest inner call memo).2.store.Truthful digest inner asked := by
  cases hget : memo.store.get? (call.key digest) with
  | some text =>
      rw [service_of_hit hget]
      exact ⟨(h.inner_eq hkeys hcall hget).symm, h⟩
  | none =>
      rw [service_of_miss hget]
      refine ⟨rfl, ?_⟩
      cases hinner : inner call with
      | ok text => exact h.put hcall hinner
      | error reason => exact h

/-- A conversion behind the store ends as it does without it. -/
theorem runM_truthful {α : Type} {s : Session α} (h : memo.store.Truthful digest inner asked)
    (hkeys : KeysAgree digest inner asked) (hcalls : (s.run inner).2 ⊆ asked) :
    (s.runM (service digest inner) memo).1 = (s.run inner).1 ∧
      (s.runM (service digest inner) memo).2.store.Truthful digest inner asked := by
  induction s generalizing memo with
  | ask call next ih =>
      obtain ⟨hcall, hrest⟩ := List.cons_subset.1 hcalls
      obtain ⟨hanswer, hstore⟩ := service_truthful h hkeys hcall
      have hlater := ih _ hstore hrest
      rw [← hanswer] at hlater
      exact ⟨hlater.1.trans (by rw [Session.run, hanswer]), hlater.2⟩
  | _ => exact ⟨rfl, h⟩

end Memo

end ArticleTree.Cache
