import ArticleTree.Proofs.Cache.Truthful
import ArticleTree.Proofs.Command.Opening
import ArticleTree.Proofs.Wiki.Told

/-! # Conversions of a command

If the servers of the wiki always answer a request alike, all that a conversion does to a
machine is that its cache is kept. It can be kept again and again, since nothing that a command
does takes the place away where it is kept. So a command that converts articles upholds what
keeping its cache and delivering its articles uphold.
-/

namespace ArticleTree.Command

open DiskMachine

namespace Service

variable {α : Type} {home : String} {server : Http.Request → Option Http.Response}
  {state : DiskMachine}

theorem run_answer (client : Wiki.Client) (call : Call) (memo : Cache.Memo) :
    (answer (machine home server) client call).run memo =
      pure (Cache.Memo.service Digest.ofText (client.told server) call memo) := by
  have hsend : client.answer (machine home server).send =
      fun call => pure (client.told server call) :=
    funext (Wiki.Client.answer_pure server client)
  rw [answer, StateT.run_mk, hsend, Cache.Memo.answer, Cache.Memo.service, Cache.Memo.answer]
  cases memo.store.get? (call.key Digest.ofText) with
  | some text => rfl
  | none => exact pure_bind _ _

/-- Only the cache is changed by what a session asks. -/
theorem runM_answer (client : Wiki.Client) (session : Session α) (memo : Cache.Memo) :
    (session.runM (answer (machine home server) client)).run memo =
      pure (session.runM (Cache.Memo.service Digest.ofText (client.told server)) memo) := by
  induction session generalizing memo with
  | ask call next ih =>
      rw [Session.runM, Session.runM, StateT.run_bind, run_answer, pure_bind, ih]
      rfl
  | _ => rfl

/-- What a session comes to behind the cache, and the cache after it. -/
def converted (server : Http.Request → Option Http.Response) (service : Service)
    (session : Session α) : Outcome α × Service :=
  let (outcome, memo) :=
    session.runM (Cache.Memo.service Digest.ofText (service.client.told server)) service.memo
  (outcome, { service with memo })

/-- All that a conversion does to the machine is that the cache is kept. -/
theorem convert_eq (service : Service) (session : Session α) :
    service.convert (machine home server) session = (do
      save (machine home server) service (service.converted server session).2
      return service.converted server session) := by
  rw [convert, runM_answer]
  rfl

/-! ## Keeping the cache -/

/-- The file of the cache, if there is one, can be written. -/
def Stores (service : Service) (disk : Disk) : Prop :=
  ∀ path, service.file = some path →
    ∀ content, ∃ after, disk.write path content = .ok after

/-- The disk is as it was, or the file of the cache was written. -/
def Saved (service : Service) (disk after : Disk) : Prop :=
  after = disk ∨ ∃ path place content,
    service.file = some path ∧ disk.Takes path place ∧ after = disk.put place (.file content)

variable {service : Service} {disk after : Disk} {place : List String} {content : ByteArray}

theorem stores_of_write {path : String} (hfile : service.file = some path)
    (h : disk.write path content = .ok after) : service.Stores disk := by
  intro other hother given
  obtain ⟨_, htakes, _⟩ := Disk.exists_takes h
  rw [hfile, Option.some.injEq] at hother
  subst hother
  exact ⟨_, htakes.write given⟩

theorem Stores.put (h : service.Stores disk) (hplace : disk.entry? place ≠ some .directory) :
    service.Stores (disk.put place (.file content)) := by
  intro path hfile given
  obtain ⟨_, hwrite⟩ := h path hfile given
  obtain ⟨_, htakes, _⟩ := Disk.exists_takes hwrite
  exact ⟨_, (htakes.put hplace content).write given⟩

theorem Saved.stores (h : service.Saved disk after) (hstores : service.Stores disk) :
    service.Stores after := by
  rcases h with rfl | ⟨path, place, content, _, htakes, rfl⟩
  · exact hstores
  · exact hstores.put htakes.free

theorem exists_save (before service : Service) (h : service.Stores state.disk) :
    ∃ disk, service.Saved state.disk disk ∧
      perform (save (machine home server) before service) state =
        (.ok (), { state with disk }) := by
  rw [save]
  cases hfile : service.file with
  | none => exact ⟨state.disk, .inl rfl, rfl⟩
  | some path =>
      dsimp only
      split
      · exact ⟨state.disk, .inl rfl, rfl⟩
      · obtain ⟨disk, hwrite⟩ := h path hfile service.memo.store.render.toUTF8
        obtain ⟨place, htakes, rfl⟩ := Disk.exists_takes hwrite
        refine ⟨_, .inr ⟨path, place, service.memo.store.render.toUTF8, hfile, htakes, rfl⟩, ?_⟩
        rw [perform_writeText, hwrite]

variable (home server) in
/-- A conversion comes to an end if the cache can be kept. -/
theorem exists_convert (s : Session α) (h : service.Stores state.disk) :
    ∃ disk, service.Saved state.disk disk ∧
      perform (service.convert (machine home server) s) state =
        (.ok (service.converted server s), { state with disk }) := by
  obtain ⟨disk, hsaved, hsave⟩ :=
    exists_save service (service.converted server s).2 h
  refine ⟨disk, hsaved, ?_⟩
  rw [convert_eq, perform_bind_of_ok hsave]
  rfl

end Service

/-! ## What commands uphold -/

variable {home : String} {server : Http.Request → Option Http.Response} {state : DiskMachine}
  {settings : Settings} {options : Options} {out : Option String} {titles : List String}
  {useCache : Bool} {service : Service} {α : Type} {P : DiskMachine → Prop} {Q : Service → Prop}

/-- A conversion writes nothing but its cache. -/
theorem Service.upholds_convert {s : Session α}
    (hwrite : ∀ path, service.file = some path → Upholds P ((machine home server).writeText path
      (service.converted server s).2.memo.store.render) fun _ => True) :
    Upholds P (service.convert (machine home server) s)
      fun result => result = service.converted server s := by
  rw [convert_eq]
  refine Upholds.bind (Q := fun _ => True) ?_ fun _ _ => upholds_pure rfl
  rw [save]
  split
  · exact upholds_pure trivial
  · rename_i path hpath
    split
    · exact upholds_pure trivial
    · exact hwrite path hpath

/-- Articles are converted by services that come from each other, and delivered. -/
theorem upholds_convertAll
    (hconvert : ∀ title ∈ titles, ∀ service, Q service →
      Upholds P (service.convert (machine home server) (Article.load options { title }))
        fun result => Q result.2 ∧ ∀ article, result.1 = .ok article →
          Upholds P (deliver (machine home server) out article) fun _ => True)
    (hservice : Q service) :
    Upholds P (convertAll (machine home server) options out titles service) fun _ => True := by
  induction titles generalizing service with
  | nil => exact upholds_pure trivial
  | cons title titles ih =>
      obtain ⟨hfirst, hothers⟩ := List.forall_mem_cons.1 hconvert
      rw [convertAll]
      refine (hfirst service hservice).bind fun result hresult => ?_
      obtain ⟨outcome, after⟩ := result
      obtain ⟨hafter, hdeliver⟩ := hresult
      have hrest := ih hothers hafter
      cases outcome with
      | ok article => exact (hdeliver article rfl).bind fun _ _ => hrest
      | failed reason => exact hrest.bind fun _ _ => upholds_pure trivial
      | tooDeep => exact upholds_pure trivial

/-- With the settings that are found, a service is opened, the directory is made if there is to be
    one, and the articles are converted. -/
theorem keeps_runParse (hsettings : settingsOn home state.disk = .ok settings)
    (hopen : Upholds P (Service.openFor (machine home server) settings useCache) Q)
    (hneed : ∀ directory, Upholds P ((machine home server).needDirectory directory) fun _ => True)
    (hconvert : ∀ service, Q service → Upholds P
      (convertAll (machine home server) settings.pipeline out titles service) fun _ => True)
    (hstate : P state) :
    P (perform (runParse (machine home server) titles out useCache) state).2 := by
  have hload : perform (Settings.load (machine home server)) state = (.ok settings, state) := by
    rw [perform_load, hsettings]
  rw [runParse, perform_bind_of_ok hload]
  refine Upholds.keeps (Q := fun _ => True) ?_ hstate
  refine hopen.bind fun service hservice => ?_
  have hend := (hconvert service hservice).bind (R := fun _ => True)
    (k := fun counted => pure (Ending.ofFailed counted)) fun _ _ => upholds_pure trivial
  cases out with
  | none => exact hend
  | some directory => exact (hneed directory).bind fun _ _ => hend

end ArticleTree.Command
