import ArticleTree.Proofs.Article.FailFast
import ArticleTree.Proofs.Cache.Transparency

/-! # Conversions that are repeated behind a cache

Which calls a conversion makes is only found out on the way, from what the calls before were
answered. So that a second conversion is answered from the store takes two things: it makes
the calls of the first, since both get the answers of the service itself, and every answer of
the first that can be stored is in the store.

The invariant is about a cache that was not empty at the beginning, and about the calls that
are made in the whole: what is stored for one of them is what the service answers to it, and
for those made so far it is stored.
-/

namespace ArticleTree.Cache

/-- No two of the calls share a key. -/
def KeysApart (digest : String → String) (calls : List Call) : Prop :=
  ∀ a ∈ calls, ∀ b ∈ calls, a.key digest = b.key digest → a = b

instance (digest : String → String) (calls : List Call) : Decidable (KeysApart digest calls) :=
  inferInstanceAs (Decidable (∀ a ∈ calls, ∀ b ∈ calls, a.key digest = b.key digest → a = b))

/-- The calls that fail. -/
def failing (inner : Call → Answer) (calls : List Call) : List Call :=
  calls.filter fun call => !(inner call).isOk

section

variable {inner : Call → Answer} {call : Call}

theorem failing_cons (call : Call) (calls : List Call) :
    failing inner (call :: calls) = failing inner [call] ++ failing inner calls :=
  List.filter_append [call] calls

theorem failing_of_ok {text : String} (h : inner call = .ok text) : failing inner [call] = [] := by
  simp [failing, h, Except.isOk, Except.toBool]

theorem failing_of_error {reason : Failure} (h : inner call = .error reason) :
    failing inner [call] = [call] := by
  simp [failing, h, Except.isOk, Except.toBool]

end

namespace Front

/-- A cache as a content service. -/
def service (digest : String → String) (inner : Call → Answer) : Call → StateM Front Answer :=
  fun call front => front.answer digest inner call

/-- What is stored for the calls is what the service answers to them. -/
def Agrees (digest : String → String) (inner : Call → Answer) (calls : List Call)
    (front : Front) : Prop :=
  ∀ call ∈ calls, ∀ text, front.memo.store.get? (call.key digest) = some text →
    inner call = .ok text

/-- Of the `calls`, those `made` so far were answered. -/
structure Remembers (digest : String → String) (inner : Call → Answer) (calls made : List Call)
    (front : Front) : Prop where
  agrees : front.Agrees digest inner calls
  subset : made ⊆ calls
  stored : ∀ call ∈ made, ∀ text, inner call = .ok text →
    front.memo.store.get? (call.key digest) = some text

/-- All that happened in between is that some calls reached the service, and nothing was stored
    for them. -/
structure OnlyReached (before : Front) (calls : List Call) (after : Front) : Prop where
  store : after.memo.store = before.memo.store
  misses : after.memo.misses = before.memo.misses + calls.length
  reached : after.reached = before.reached ++ calls

variable {digest : String → String} {inner : Call → Answer} {calls made : List Call}
  {call : Call} {front : Front}

@[simp] theorem service_apply :
    service digest inner call front = front.answer digest inner call := rfl

theorem OnlyReached.refl : front.OnlyReached [] front where
  store := rfl
  misses := rfl
  reached := (List.append_nil _).symm

theorem OnlyReached.trans {middle after : Front} {earlier later : List Call}
    (h : front.OnlyReached earlier middle) (hlater : middle.OnlyReached later after) :
    front.OnlyReached (earlier ++ later) after where
  store := hlater.store.trans h.store
  misses := by
    rw [hlater.misses, h.misses, List.length_append, Nat.add_assoc]
  reached := by
    rw [hlater.reached, h.reached, List.append_assoc]

theorem get?_put (key other text : String) (store : Store) :
    (store.put key text).get? other = if key = other then some text else store.get? other :=
  Keyed.get?_insert key other text store.entries

/-! ## One call -/

/-- The counters play no part. -/
theorem Remembers.of_store_eq (h : front.Remembers digest inner calls made) {after : Front}
    (hstore : after.memo.store = front.memo.store) : after.Remembers digest inner calls made where
  agrees call hmem text hget := h.agrees call hmem text (hstore ▸ hget)
  subset := h.subset
  stored call hmem text hok := hstore ▸ h.stored call hmem text hok

/-- Nothing has to be stored for a call that fails, or that was made before. -/
theorem Remembers.concat (h : front.Remembers digest inner calls made) (hcall : call ∈ calls)
    (hknown : ∀ text, inner call = .ok text →
      front.memo.store.get? (call.key digest) = some text) :
    front.Remembers digest inner calls (made ++ [call]) where
  agrees := h.agrees
  subset := List.append_subset.2 ⟨h.subset, by simpa using hcall⟩
  stored := by
    simp only [List.forall_mem_append, List.forall_mem_singleton]
    exact ⟨h.stored, hknown⟩

/-- A new text is stored. What is stored for other calls stays, for it is under other keys. -/
theorem Remembers.put (h : front.Remembers digest inner calls made)
    (hkeys : KeysApart digest calls) (hcall : call ∈ calls) {text : String}
    (hok : inner call = .ok text) {after : Front}
    (hstore : after.memo.store = front.memo.store.put (call.key digest) text) :
    after.Remembers digest inner calls (made ++ [call]) where
  agrees := by
    intro other hmem text' hget
    rw [hstore, get?_put] at hget
    split at hget
    · rename_i hkey
      obtain rfl := hkeys call hcall other hmem hkey
      cases hget
      exact hok
    · exact h.agrees other hmem text' hget
  subset := List.append_subset.2 ⟨h.subset, by simpa using hcall⟩
  stored := by
    simp only [List.forall_mem_append, List.forall_mem_singleton, hstore, get?_put, if_true, hok,
      Except.ok.injEq, Option.some.injEq, imp_self, implies_true, and_true]
    intro other hmem text' hok'
    split
    · rename_i hkey
      obtain rfl := hkeys call hcall other (h.subset hmem) hkey
      rw [hok, Except.ok.injEq] at hok'
      rw [hok']
    · exact h.stored other hmem text' hok'

/-- A call is answered as the service answers it, and remembered. -/
theorem Remembers.answer (h : front.Remembers digest inner calls made)
    (hkeys : KeysApart digest calls) (hcall : call ∈ calls) :
    (front.answer digest inner call).1 = inner call ∧
      (front.answer digest inner call).2.Remembers digest inner calls (made ++ [call]) := by
  cases hget : front.memo.store.get? (call.key digest) with
  | some text =>
      have hok : inner call = .ok text := h.agrees call hcall text hget
      rw [answer_of_hit hget]
      refine ⟨hok.symm, (h.concat hcall ?_).of_store_eq rfl⟩
      intro text' hok'
      rw [hok, Except.ok.injEq] at hok'
      exact hok' ▸ hget
  | none =>
      rw [answer_of_miss hget]
      refine ⟨rfl, ?_⟩
      cases hinner : inner call with
      | ok text => exact h.put hkeys hcall hinner rfl
      | error reason => exact (h.concat hcall (by simp [hinner])).of_store_eq rfl

/-- Of what was made before, only the calls that fail reach the service again. -/
theorem Remembers.answer_again (h : front.Remembers digest inner calls made)
    (hmem : call ∈ made) :
    (front.answer digest inner call).1 = inner call ∧
      front.OnlyReached (failing inner [call]) (front.answer digest inner call).2 := by
  cases hinner : inner call with
  | ok text =>
      rw [answer_of_hit (h.stored call hmem text hinner), failing_of_ok hinner]
      exact ⟨rfl, rfl, rfl, (List.append_nil _).symm⟩
  | error reason =>
      have hmiss : front.memo.store.get? (call.key digest) = none := by
        by_contra hget
        obtain ⟨text, hget⟩ := Option.ne_none_iff_exists'.1 hget
        have hok := h.agrees call (h.subset hmem) text hget
        rw [hinner] at hok
        cases hok
      rw [answer_of_miss hmiss, failing_of_error hinner, hinner]
      exact ⟨rfl, rfl, rfl, rfl⟩

/-! ## Runs -/

/-- A session behind the cache makes the calls that it makes with the service alone, gets the
    same answers and ends alike. -/
theorem Remembers.observe {α : Type} {s : Session α}
    (h : front.Remembers digest inner calls made) (hkeys : KeysApart digest calls)
    (hcalls : (s.observe (service digest inner) front).calls ⊆ calls) :
    let run := s.observe (service digest inner) front
    run.outcome = (s.run inner).1 ∧ run.log = (s.run inner).2.map (fun call => (call, inner call)) ∧
      run.state.Remembers digest inner calls (made ++ run.calls) := by
  induction s generalizing front made with
  | ask call next ih =>
      rw [Session.observe_ask] at hcalls ⊢
      obtain ⟨hcall, hrest⟩ := List.cons_subset.1 hcalls
      obtain ⟨hanswer, hafter⟩ := h.answer hkeys hcall
      rw [service_apply, hanswer] at hrest ⊢
      obtain ⟨houtcome, hlog, hstate⟩ := ih _ hafter hrest
      refine ⟨houtcome, congrArg _ hlog, ?_⟩
      rw [List.append_assoc] at hstate
      exact hstate
  | _ => exact ⟨rfl, rfl, by simpa [Run.calls] using h⟩

/-- Calls made one after the other are remembered. -/
theorem Remembers.answerAll {more : List Call} (h : front.Remembers digest inner calls made)
    (hkeys : KeysApart digest calls) (hmore : more ⊆ calls) :
    (answerAll digest inner more front).2.Remembers digest inner calls (made ++ more) := by
  induction more generalizing front made with
  | nil => simpa [Front.answerAll] using h
  | cons call more ih =>
      obtain ⟨hcall, hrest⟩ := List.cons_subset.1 hmore
      have hafter := ih (h.answer hkeys hcall).2 hrest
      rw [List.append_assoc] at hafter
      exact hafter

/-- A session whose calls were all made before ends as it does with the service alone, and only
    its failing calls reach the service. -/
theorem Remembers.observe_again {α : Type} {s : Session α}
    (h : front.Remembers digest inner calls made) (hmade : (s.run inner).2 ⊆ made) :
    let run := s.observe (service digest inner) front
    run.outcome = (s.run inner).1 ∧
      front.OnlyReached (failing inner (s.run inner).2) run.state := by
  induction s generalizing front with
  | ask call next ih =>
      have hrun : (Session.ask call next).run inner =
          (((next (inner call)).run inner).1, call :: ((next (inner call)).run inner).2) := rfl
      obtain ⟨hcall, hrest⟩ := List.cons_subset.1 hmade
      obtain ⟨hanswer, hstep⟩ := h.answer_again hcall
      rw [Session.observe_ask, hrun, service_apply, hanswer, failing_cons]
      obtain ⟨houtcome, hlater⟩ := ih _ (h.of_store_eq hstep.store) hrest
      exact ⟨houtcome, hstep.trans hlater⟩
  | _ => exact ⟨rfl, .refl⟩

/-- Sessions with the same calls, one after the other with other calls in between. The first one
    may find all sorts of answers in the cache already. -/
theorem Agrees.observe_twice {α β : Type} {s : Session α} {t : Session β} {between : List Call}
    (h : front.Agrees digest inner ((s.observe (service digest inner) front).calls ++ between))
    (hkeys : KeysApart digest ((s.observe (service digest inner) front).calls ++ between))
    (hsame : (t.run inner).2 = (s.run inner).2) :
    let first := s.observe (service digest inner) front
    let before := (Front.answerAll digest inner between first.state).2
    let again := t.observe (service digest inner) before
    first.outcome = (s.run inner).1 ∧ again.outcome = (t.run inner).1 ∧
      before.OnlyReached first.failedCalls again.state := by
  have hstart : front.Remembers digest inner
      ((s.observe (service digest inner) front).calls ++ between) [] :=
    ⟨h, List.nil_subset _, by simp⟩
  obtain ⟨houtcome, hlog, hafter⟩ := hstart.observe hkeys (List.subset_append_left _ _)
  have hcalls : (s.observe (service digest inner) front).calls = (s.run inner).2 := by
    simp [Run.calls, hlog, Function.comp_def]
  have hfailed : (s.observe (service digest inner) front).failedCalls =
      failing inner (s.run inner).2 := by
    simp [Run.failedCalls, failing, hlog, List.filter_map, Function.comp_def]
  have hbefore := hafter.answerAll hkeys (List.subset_append_right _ _)
  obtain ⟨hagain, hreached⟩ := hbefore.observe_again (s := t) (by simp [hcalls, hsame])
  rw [hsame, ← hfailed] at hreached
  exact ⟨houtcome, hagain, hreached⟩

/-! ## Converting articles -/

theorem neverStructural_service
    (hinner : ∀ call reason, inner call = .error reason → reason.isStructural = false) :
    NeverStructural (service digest inner) := by
  intro call front reason hfailed
  rw [service_apply] at hfailed
  cases hget : front.memo.store.get? (call.key digest) with
  | some text =>
      rw [answer_of_hit hget] at hfailed
      cases hfailed
  | none =>
      rw [answer_of_miss hget] at hfailed
      exact hinner call reason hfailed

/-- An article that was loaded once is loaded again without a call that reaches the service,
    whatever was asked for in between, and the options may be others. If the service failed the
    first time, only the call that failed reaches it again. -/
theorem load_again (digest : String → String) (inner : Call → Answer)
    (hinner : ∀ call reason, inner call = .error reason → reason.isStructural = false)
    (front : Front) (between : List Call) (options options' : Options) (ctx : Context)
    (hfront : front.Agrees digest inner
      (((Article.load options ctx).observe (service digest inner) front).calls ++ between))
    (hkeys : KeysApart digest
      (((Article.load options ctx).observe (service digest inner) front).calls ++ between)) :
    let first := (Article.load options ctx).observe (service digest inner) front
    let before := (answerAll digest inner between first.state).2
    let again := (Article.load options' ctx).observe (service digest inner) before
    (∀ article, first.outcome = .ok article →
        before.OnlyReached [] again.state ∧
          ∃ article', again.outcome = .ok article' ∧ (options' = options → article' = article)) ∧
      ∀ call reason, (call, .error reason) ∈ first.log →
        first.outcome = .failed reason ∧ again.outcome = .failed reason ∧
          before.OnlyReached [call] again.state := by
  have hload : ∀ options, (Article.load options ctx).run inner =
      (((Article.fetch ctx).run inner).1.map fun nodes =>
          ⟨ctx.title, Stages.conversion options nodes⟩,
        ((Article.fetch ctx).run inner).2) := by
    intro options
    rw [Article.load_eq, Session.run_map]
  have hfast : ((Article.load options ctx).observe (service digest inner) front).FailedFast
      Failure.isMalformed :=
    Article.failsFast_load.failedFast (fun _ => Failure.isStructural_of_isMalformed)
      (neverStructural_service hinner) front
  obtain ⟨houtcome, hagain, hreached⟩ :=
    hfront.observe_twice (t := Article.load options' ctx) hkeys (by rw [hload, hload])
  intro first before again
  rw [hload] at houtcome hagain
  constructor
  · intro article hok
    rw [hfast.failedCalls_of_ok hok] at hreached
    obtain ⟨nodes, hnodes, rfl⟩ := Outcome.map_eq_ok.1 (houtcome.symm.trans hok)
    refine ⟨hreached, ⟨ctx.title, Stages.conversion options' nodes⟩, ?_, ?_⟩
    · rw [hagain, hnodes]
      rfl
    · rintro rfl
      rfl
  · intro call reason hmem
    obtain ⟨hfailed, hcalls⟩ := hfast.failedCalls_of_mem hmem
    rw [hcalls] at hreached
    have hfetch := Outcome.map_eq_failed.1 (houtcome.symm.trans hfailed)
    exact ⟨hfailed, hagain.trans (Outcome.map_eq_failed.2 hfetch), hreached⟩

theorem agrees_start (calls : List Call) : start.Agrees digest inner calls := by
  intro call hcall text hget
  simp [start, Memo.fresh, Store.empty, Store.get?, Keyed.get?] at hget

/-- An article that is a gallery, whose second caption is answered with something of its own. -/
def gallery (second : Answer) : Call → Answer
  | .getContent _ => .ok "gallery"
  | .renderHtml _ "gallery" => .ok ("<ul typeof=\"mw:Extension/gallery\" data-mw=\x27\x7b" ++
      "\"body\":\x7b\"extsrc\":\"A.jpg|first\\nB.jpg|second\\nC.jpg|third\"\x7d\x7d\x27></ul>")
  | .renderHtml _ "second" => second
  | .renderHtml _ text => .ok ("<p>" ++ text ++ "</p>")

theorem isStructural_of_gallery {second : Answer}
    (hsecond : ∀ reason, second = .error reason → reason.isStructural = false) :
    ∀ call reason, gallery second call = .error reason → reason.isStructural = false := by
  intro call reason hfailed
  unfold gallery at hfailed
  split at hfailed
  case h_3 => exact hsecond reason hfailed
  all_goals cases hfailed

theorem load_again_gallery :
    let rendered := gallery (.ok "<p>second</p>")
    let broken := gallery (.error (.network "render failed"))
    let ctx : Context := ⟨"Title", 5⟩
    let between : List Call := [.getContent "Other", .renderHtml "Title" "second"]
    let first := fun inner => (Article.load {} ctx).observe (service id inner) start
    let before := fun inner => (answerAll id inner between (first inner).state).2
    let again := fun inner => (Article.load ⟨true⟩ ctx).observe (service id inner) (before inner)
    (first rendered).calls = [.getContent "Title", .renderHtml "Title" "gallery",
        .renderHtml "Title" "first", .renderHtml "Title" "second", .renderHtml "Title" "third"] ∧
      (before rendered).OnlyReached [] (again rendered).state ∧
      (before broken).OnlyReached [.renderHtml "Title" "second"] (again broken).state := by
  intro rendered broken ctx between first before again
  have hrendered : ∀ call reason, rendered call = .error reason → reason.isStructural = false :=
    isStructural_of_gallery (by simp)
  have hbroken : ∀ call reason, broken call = .error reason → reason.isStructural = false :=
    isStructural_of_gallery (by rintro _ ⟨⟩; rfl)
  have hfirst : (first rendered).calls = [.getContent "Title", .renderHtml "Title" "gallery",
        .renderHtml "Title" "first", .renderHtml "Title" "second", .renderHtml "Title" "third"] ∧
      (first rendered).outcome.map (fun _ => ()) = .ok () := by
    decide +kernel
  have hlog : (first broken).log = [.getContent "Title", .renderHtml "Title" "gallery",
      .renderHtml "Title" "first", .renderHtml "Title" "second"].map fun call =>
        (call, broken call) := by
    decide +kernel
  refine ⟨hfirst.1, ?_, ?_⟩
  · obtain ⟨article, hok, -⟩ := Outcome.map_eq_ok.1 hfirst.2
    have hkeys : KeysApart id ((first rendered).calls ++ between) := by
      rw [hfirst.1]
      decide +kernel
    have h := load_again id rendered hrendered start between {} ⟨true⟩ ctx (agrees_start _) hkeys
    exact (h.1 article hok).1
  · have hkeys : KeysApart id ((first broken).calls ++ between) := by
      rw [Run.calls, hlog]
      decide +kernel
    have h := load_again id broken hbroken start between {} ⟨true⟩ ctx (agrees_start _) hkeys
    have hfailed : (.renderHtml "Title" "second", .error (.network "render failed")) ∈
        (first broken).log := by
      rw [hlog]
      decide +kernel
    exact (h.2 _ _ hfailed).2.2

end Front

end ArticleTree.Cache
