import ArticleTree.Cache.Memo
import ArticleTree.Proofs.Keyed
import Mathlib.Data.Finset.Card

/-! # A cache answers as the service behind it

The service always answers a call alike, and two calls that are made never share a key. Then
nobody can tell the cache from the service, whatever calls are made in whatever order: what
differs is only which calls reach the service, and the cache counts them.

The invariant relates the store to the calls made so far. A text is stored under a key exactly
if a call with that key was made and answered with the text.
-/

namespace ArticleTree.Cache

/-- A service that writes down the calls that reach it. -/
def recording (inner : Call → Answer) (call : Call) : StateM (List Call) Answer := do
  modify (· ++ [call])
  return inner call

/-- The calls that were answered with a text, each of them once. -/
def succeeded (inner : Call → Answer) (calls : List Call) : Finset Call :=
  (calls.filter fun call => (inner call).isOk).toFinset

theorem isOk_eq_true {answer : Answer} : answer.isOk = true ↔ ∃ text, answer = .ok text := by
  cases answer with
  | ok text => exact iff_of_true rfl ⟨text, rfl⟩
  | error reason => simp [Except.isOk, Except.toBool]

theorem exists_mem_concat {calls : List Call} {call : Call} {p : Call → Prop} :
    (∃ c ∈ calls ++ [call], p c) ↔ (∃ c ∈ calls, p c) ∨ p call := by
  simp only [List.mem_append, List.mem_singleton, or_and_right, exists_or, exists_eq_left]

theorem mem_succeeded {inner : Call → Answer} {calls : List Call} {call : Call} :
    call ∈ succeeded inner calls ↔ call ∈ calls ∧ (inner call).isOk = true := by
  rw [succeeded, List.mem_toFinset, List.mem_filter]

theorem succeeded_concat_of_error {inner : Call → Answer} {call : Call}
    (h : (inner call).isOk = false) (calls : List Call) :
    succeeded inner (calls ++ [call]) = succeeded inner calls := by
  simp [succeeded, h]

theorem succeeded_concat_of_mem {inner : Call → Answer} {calls : List Call} {call : Call}
    (h : call ∈ succeeded inner calls) :
    succeeded inner (calls ++ [call]) = succeeded inner calls := by
  ext other
  simp only [mem_succeeded, List.mem_append, List.mem_singleton] at h ⊢
  constructor
  · rintro ⟨hmem | rfl, hok⟩
    · exact ⟨hmem, hok⟩
    · exact h
  · rintro ⟨hmem, hok⟩
    exact ⟨.inl hmem, hok⟩

theorem succeeded_concat_of_ok {inner : Call → Answer} {call : Call}
    (h : (inner call).isOk = true) (calls : List Call) :
    succeeded inner (calls ++ [call]) = insert call (succeeded inner calls) := by
  ext other
  simp only [Finset.mem_insert, mem_succeeded, List.mem_append, List.mem_singleton]
  constructor
  · rintro ⟨hmem | rfl, hok⟩
    · exact .inr ⟨hmem, hok⟩
    · exact .inl rfl
  · rintro (rfl | ⟨hmem, hok⟩)
    · exact ⟨.inr rfl, h⟩
    · exact ⟨.inl hmem, hok⟩

/-- A cache, and the calls that reached the service behind it. -/
structure Front where
  memo : Memo
  reached : List Call
  deriving DecidableEq

namespace Front

/-- Nothing is stored, and no call was made. -/
def start : Front := ⟨.fresh .empty, []⟩

/-- Answer a call. -/
def answer (digest : String → String) (inner : Call → Answer) (call : Call) (front : Front) :
    Answer × Front :=
  let ((answer, memo), reached) := front.memo.answer digest (recording inner) call front.reached
  (answer, ⟨memo, reached⟩)

/-- Answer calls one after the other. -/
def answerAll (digest : String → String) (inner : Call → Answer) :
    List Call → Front → List Answer × Front
  | [], front => ([], front)
  | call :: calls, front =>
      let (answer, front) := front.answer digest inner call
      let (answers, front) := answerAll digest inner calls front
      (answer :: answers, front)

variable {digest : String → String} {inner : Call → Answer} {made : List Call} {call : Call}
  {front : Front}

theorem answer_of_hit {text : String} (h : front.memo.store.get? (call.key digest) = some text) :
    front.answer digest inner call =
      (.ok text, { front with memo := { front.memo with hits := front.memo.hits + 1 } }) := by
  simp only [answer, Memo.answer, h]
  rfl

theorem answer_of_miss (h : front.memo.store.get? (call.key digest) = none) :
    front.answer digest inner call =
      (inner call,
        ⟨Memo.remember (call.key digest) (inner call)
          { front.memo with misses := front.memo.misses + 1 }, front.reached ++ [call]⟩) := by
  simp only [answer, Memo.answer, h]
  rfl

theorem answerAll_concat (calls : List Call) :
    answerAll digest inner (calls ++ [call]) front =
      ((answerAll digest inner calls front).1 ++
          [((answerAll digest inner calls front).2.answer digest inner call).1],
        ((answerAll digest inner calls front).2.answer digest inner call).2) := by
  induction calls generalizing front with
  | nil => rfl
  | cons first calls ih => simp only [List.cons_append, answerAll, ih]

/-! ## The invariant -/

/-- The cache after the calls. -/
structure Faithful (digest : String → String) (inner : Call → Answer) (made : List Call)
    (front : Front) : Prop where
  ascending : Keyed.Ascending front.memo.store.entries
  stored : ∀ key text, front.memo.store.get? key = some text ↔
    ∃ call ∈ made, call.key digest = key ∧ inner call = .ok text
  size : front.memo.store.size = (succeeded inner made).card
  misses : front.memo.misses = front.reached.length
  total : front.memo.hits + front.memo.misses = made.length

theorem faithful_start : Faithful digest inner [] start where
  ascending := .nil
  stored key text := by simp [start, Memo.fresh, Store.empty, Store.get?, Keyed.get?]
  size := rfl
  misses := rfl
  total := rfl

theorem Faithful.get?_eq_some (h : Faithful digest inner made front)
    (hkey : ∀ earlier ∈ made, earlier.key digest = call.key digest → earlier = call)
    {text : String} :
    front.memo.store.get? (call.key digest) = some text ↔ call ∈ made ∧ inner call = .ok text := by
  rw [h.stored]
  constructor
  · rintro ⟨earlier, hmem, heq, hok⟩
    obtain rfl := hkey earlier hmem heq
    exact ⟨hmem, hok⟩
  · rintro ⟨hmem, hok⟩
    exact ⟨call, hmem, rfl, hok⟩

/-- What answering a call does, after the calls made before it. -/
structure Transparent (inner : Call → Answer) (made : List Call) (call : Call) (given : Answer)
    (before after : Front) : Prop where
  same : given = inner call
  reached : after.reached =
    if call ∈ succeeded inner made then before.reached else before.reached ++ [call]
  misses : after.memo.misses = after.reached.length
  total : after.memo.hits + after.memo.misses = made.length + 1
  size : after.memo.store.size = (succeeded inner (made ++ [call])).card
  failed : (inner call).isOk = false → after.memo.store = before.memo.store

/-- A call that succeeded before is answered from the store. -/
theorem Faithful.hit (h : Faithful digest inner made front) (hmem : call ∈ made) {text : String}
    (hok : inner call = .ok text) :
    Faithful digest inner (made ++ [call])
      { front with memo := { front.memo with hits := front.memo.hits + 1 } } := by
  have hsucceeded : call ∈ succeeded inner made :=
    mem_succeeded.2 ⟨hmem, isOk_eq_true.2 ⟨text, hok⟩⟩
  exact {
    ascending := h.ascending
    stored := by
      intro key text
      rw [exists_mem_concat, h.stored]
      constructor
      · exact .inl
      · rintro (heq | heq)
        · exact heq
        · exact ⟨call, hmem, heq⟩
    size := by
      rw [succeeded_concat_of_mem hsucceeded]
      exact h.size
    misses := h.misses
    total := by
      have := h.total
      simp only [List.length_append, List.length_singleton]
      omega }

/-- A failure is passed on, and nothing is stored. -/
theorem Faithful.missFailed (h : Faithful digest inner made front) {reason : Failure}
    (hfailed : inner call = .error reason) :
    Faithful digest inner (made ++ [call])
      ⟨{ front.memo with misses := front.memo.misses + 1 }, front.reached ++ [call]⟩ where
  ascending := h.ascending
  stored := by
    intro key text
    rw [exists_mem_concat, h.stored]
    constructor
    · exact .inl
    · rintro (heq | ⟨_, hok⟩)
      · exact heq
      · rw [hfailed] at hok
        cases hok
  size := by
    rw [succeeded_concat_of_error (by rw [hfailed]; rfl)]
    exact h.size
  misses := by simp [h.misses]
  total := by
    have := h.total
    simp only [List.length_append, List.length_singleton]
    omega

/-- A text that is new is stored under a key that is new. -/
theorem Faithful.missStored (h : Faithful digest inner made front)
    (hkey : ∀ earlier ∈ made, earlier.key digest = call.key digest → earlier = call)
    (hmiss : front.memo.store.get? (call.key digest) = none) {text : String}
    (hok : inner call = .ok text) :
    Faithful digest inner (made ++ [call])
      ⟨{ front.memo with
          misses := front.memo.misses + 1
          store := front.memo.store.put (call.key digest) text }, front.reached ++ [call]⟩ where
  ascending := h.ascending.insert _ _
  stored := by
    intro key text'
    rw [exists_mem_concat, ← h.stored]
    simp only [Store.get?, Store.put, Keyed.get?_insert, hok, Except.ok.injEq]
    split
    · rename_i heq
      subst heq
      -- No text was stored under the key, so the new text is the only one.
      simp only [Store.get?] at hmiss
      simp [hmiss]
    · rename_i hne
      simp [hne]
  size := by
    have hnew : call ∉ succeeded inner made := by
      intro hmem
      have hstored := (h.get?_eq_some hkey).2 ⟨(mem_succeeded.1 hmem).1, hok⟩
      rw [hmiss] at hstored
      cases hstored
    rw [succeeded_concat_of_ok (isOk_eq_true.2 ⟨text, hok⟩), Finset.card_insert_of_notMem hnew,
      ← h.size]
    simp only [Store.size, Store.put, Keyed.length_insert h.ascending]
    simp only [Store.get?] at hmiss
    simp [hmiss]
  misses := by simp [h.misses]
  total := by
    have := h.total
    simp only [List.length_append, List.length_singleton]
    omega

/-! ## A step and a run -/

/-- The counters and the size are as the invariant has them. -/
theorem Transparent.of_faithful {given : Answer} {before after : Front}
    (h : Faithful digest inner (made ++ [call]) after) (same : given = inner call)
    (reached : after.reached =
      if call ∈ succeeded inner made then before.reached else before.reached ++ [call])
    (failed : (inner call).isOk = false → after.memo.store = before.memo.store) :
    Transparent inner made call given before after where
  same := same
  reached := reached
  misses := h.misses
  total := by simpa using h.total
  size := h.size
  failed := failed

theorem Faithful.answer (h : Faithful digest inner made front)
    (hkey : ∀ earlier ∈ made, earlier.key digest = call.key digest → earlier = call) :
    Faithful digest inner (made ++ [call]) (front.answer digest inner call).2 ∧
      Transparent inner made call (front.answer digest inner call).1 front
        (front.answer digest inner call).2 := by
  cases hget : front.memo.store.get? (call.key digest) with
  | some text =>
      obtain ⟨hmem, hok⟩ := (h.get?_eq_some hkey).1 hget
      have hsucceeded : call ∈ succeeded inner made :=
        mem_succeeded.2 ⟨hmem, isOk_eq_true.2 ⟨text, hok⟩⟩
      have hafter := h.hit hmem hok
      rw [answer_of_hit hget]
      refine ⟨hafter, .of_faithful hafter hok.symm ?_ fun _ => rfl⟩
      rw [if_pos hsucceeded]
  | none =>
      have hnew : call ∉ succeeded inner made := by
        intro hsucceeded
        obtain ⟨hmem, hok⟩ := mem_succeeded.1 hsucceeded
        obtain ⟨text, hok⟩ := isOk_eq_true.1 hok
        rw [(h.get?_eq_some hkey).2 ⟨hmem, hok⟩] at hget
        cases hget
      rw [answer_of_miss hget]
      cases hinner : inner call with
      | error reason =>
          have hafter := h.missFailed hinner
          refine ⟨hafter, .of_faithful hafter hinner.symm ?_ fun _ => rfl⟩
          rw [if_neg hnew]
      | ok text =>
          have hafter := h.missStored hkey hget hinner
          refine ⟨hafter, .of_faithful hafter hinner.symm ?_ ?_⟩
          · rw [if_neg hnew]
          · intro hfailed
            rw [hinner] at hfailed
            cases hfailed

theorem faithful_answerAll {calls : List Call}
    (hkeys : ∀ a ∈ calls, ∀ b ∈ calls, a.key digest = b.key digest → a = b) :
    (answerAll digest inner calls start).1 = calls.map inner ∧
      Faithful digest inner calls (answerAll digest inner calls start).2 := by
  induction calls using List.reverseRecOn with
  | nil => exact ⟨rfl, faithful_start⟩
  | append_singleton calls call ih =>
      obtain ⟨hanswers, hfaithful⟩ := ih fun a ha b hb =>
        hkeys a (List.mem_append_left _ ha) b (List.mem_append_left _ hb)
      have hkey : ∀ earlier ∈ calls, earlier.key digest = call.key digest → earlier = call :=
        fun earlier hmem => hkeys earlier (List.mem_append_left _ hmem) call (by simp)
      obtain ⟨hafter, hstep⟩ := hfaithful.answer hkey
      rw [answerAll_concat]
      refine ⟨?_, hafter⟩
      rw [List.map_append, ← hanswers, hstep.same]
      rfl

/-- Behind an empty cache a service gives the answers that it gives by itself, and a call
    reaches it exactly if the call did not succeed before. The counters tell how many calls
    reached it and how many did not, and a text is kept for each call that succeeded. -/
theorem answerAll_transparent (digest : String → String) (inner : Call → Answer)
    (calls : List Call)
    (hkeys : ∀ a ∈ calls, ∀ b ∈ calls, a.key digest = b.key digest → a = b) :
    (answerAll digest inner calls start).1 = calls.map inner ∧
      ∀ made call later, calls = made ++ call :: later →
        let before := (answerAll digest inner made start).2
        (answerAll digest inner (made ++ [call]) start).2 =
            (before.answer digest inner call).2 ∧
          Transparent inner made call (before.answer digest inner call).1 before
            (before.answer digest inner call).2 := by
  refine ⟨(faithful_answerAll hkeys).1, ?_⟩
  rintro made call later rfl
  have hmade : ∀ a ∈ made, ∀ b ∈ made, a.key digest = b.key digest → a = b :=
    fun a ha b hb => hkeys a (List.mem_append_left _ ha) b (List.mem_append_left _ hb)
  have hkey : ∀ earlier ∈ made, earlier.key digest = call.key digest → earlier = call :=
    fun earlier hmem => hkeys earlier (List.mem_append_left _ hmem) call (by simp)
  refine ⟨?_, ((faithful_answerAll hmade).2.answer hkey).2⟩
  rw [answerAll_concat]

/-- A service with one article that it cannot find. -/
def withoutArticle : Call → Answer
  | .getContent "Missing" => .error (.notFound "Missing")
  | .getContent title => .ok ("source of " ++ title)
  | .renderHtml _ text => .ok ("<p>" ++ text ++ "</p>")

theorem answerAll_transparent_repeated :
    let calls : List Call := [.getContent "A", .getContent "Missing", .renderHtml "A" "x",
      .getContent "A", .getContent "Missing"]
    (∀ a ∈ calls, ∀ b ∈ calls, a.key id = b.key id → a = b) ∧
      (answerAll id withoutArticle calls start).1 = calls.map withoutArticle := by
  intro calls
  have hkeys : ∀ a ∈ calls, ∀ b ∈ calls, a.key id = b.key id → a = b := by
    decide +kernel
  exact ⟨hkeys, (answerAll_transparent id withoutArticle calls hkeys).1⟩

end Front

end ArticleTree.Cache
