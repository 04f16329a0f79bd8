import ArticleTree.Command.Run
import ArticleTree.Proofs.Disk.Actions

/-! # What a command begins with

A command begins with its settings and with the service that it asks. Settings are only read.
To open a service, the directories on the way to its cache are made, and the file of the cache
is read, or an empty one is written; so it is there as soon as the service is opened.
-/

namespace ArticleTree

/-! ## Settings -/

namespace DiskMachine

/-- The settings that are found on a disk, or why they are none. -/
def settingsOn (home : String) (disk : Disk) : Except Failure Settings :=
  let path := Settings.file home
  if disk.isThere path then
    match textAt disk path with
    | .ok text => Settings.accept path text
    | .error reason => .error reason
  else .ok {}

theorem perform_load (home : String) (server : Http.Request → Option Http.Response)
    (state : DiskMachine) :
    perform (Settings.load (machine home server)) state = (settingsOn home state.disk, state) := by
  have hhome : (machine home server).home = home := rfl
  rw [Settings.load, settingsOn, hhome]
  refine (perform_bind_of_ok (perform_isThere (Settings.file home))).trans ?_
  split
  · rw [Settings.loadFrom, perform_bind, perform_readText]
    cases textAt state.disk (Settings.file home) <;> rfl
  · rfl

end DiskMachine

/-! ## Opening a service -/

namespace Command.Service

open DiskMachine

section

variable {home : String} {server : Http.Request → Option Http.Response} {path : String}
  {settings : Settings} {useCache : Bool} {client : Wiki.Client}

/-- Open the store in a file whose directory is there. -/
def openFound (machine : Machine (StateM DiskMachine)) (path : String) :
    ExceptT Failure (StateM DiskMachine) Cache.Store := do
  if ← machine.isThere path then
    match Cache.Store.openFrom (some (← machine.readText path)) with
    | .ok store => return store
    | .error reason => throw reason
  else
    machine.writeText path Cache.Store.empty.render
    return .empty

theorem openStore_eq : openStore (machine home server) path =
    match Path.parent? path with
    | some directory => do
        (machine home server).needDirectory directory
        openFound (machine home server) path
    | none => openFound (machine home server) path := by
  rw [openStore]
  cases Path.parent? path <;> rfl

/-- All that opening a store does: the directories on the way are made, and the file is read, or
    an empty one is written. -/
theorem upholds_openStore {P : DiskMachine → Prop} {Q : Cache.Store → Prop} {R : String → Prop}
    (hmake : ∀ directory, Upholds P ((machine home server).needDirectory directory) fun _ => True)
    (hread : Upholds P ((machine home server).readText path) R)
    (hwrite : Upholds P ((machine home server).writeText path Cache.Store.empty.render)
      fun _ => True)
    (hstore : ∀ text, R text → ∀ store, Cache.Store.parse? text = some store → Q store)
    (hempty : Q .empty) : Upholds P (openStore (machine home server) path) Q := by
  have hopen : Upholds P (openFound (machine home server) path) Q := by
    refine upholds_isThere.bind fun there _ => ?_
    split
    · refine hread.bind fun text htext => ?_
      rw [Cache.Store.openFrom]
      cases hparse : Cache.Store.parse? text with
      | none => exact upholds_throw _
      | some store => exact upholds_pure (hstore text htext store hparse)
    · exact hwrite.bind fun _ _ => upholds_pure hempty
  rw [openStore_eq]
  cases Path.parent? path with
  | none => exact hopen
  | some directory => exact (hmake directory).bind fun _ _ => hopen

theorem openFor_eq (hclient : Wiki.Client.ofSettings settings.wiki = .ok client) :
    openFor (machine home server) settings useCache =
      let path := Path.expand home settings.cache.path
      if settings.cache.enabled && useCache && !isNowhere path then do
        return ⟨client, .fresh (← openStore (machine home server) path), some path⟩
      else return ⟨client, .fresh .empty, none⟩ := by
  rw [openFor, hclient]
  rfl

/-- Nothing is printed. -/
theorem upholds_openFor_printed (hclient : Wiki.Client.ofSettings settings.wiki = .ok client)
    (printed : String) :
    Upholds (fun state => state.printed = printed) (openFor (machine home server) settings useCache)
      fun _ => True := by
  have hmake (directory : String) : Upholds (fun state => state.printed = printed)
      ((machine home server).needDirectory directory) fun _ => True := by
    intro state hstate
    rw [perform_needDirectory]
    cases state.disk.makeDirectories directory with
    | error reason => exact ⟨hstate, fun _ _ => trivial⟩
    | ok disk => exact ⟨hstate, fun _ _ => trivial⟩
  have hread (path : String) : Upholds (fun state => state.printed = printed)
      ((machine home server).readText path) fun _ => True := by
    intro state hstate
    rw [perform_readText]
    exact ⟨hstate, fun _ _ => trivial⟩
  have hwrite (path text : String) : Upholds (fun state => state.printed = printed)
      ((machine home server).writeText path text) fun _ => True := by
    intro state hstate
    rw [perform_writeText]
    cases state.disk.write path text.toUTF8 with
    | error reason => exact ⟨hstate, fun _ _ => trivial⟩
    | ok disk => exact ⟨hstate, fun _ _ => trivial⟩
  rw [openFor_eq hclient]
  dsimp only
  split
  · exact (upholds_openStore hmake (hread _) (hwrite _ _) (fun _ _ _ _ => trivial) trivial).bind
      (Q := fun _ => True) fun _ _ => upholds_pure trivial
  · exact upholds_pure trivial

theorem file_of_openFound {state opened : DiskMachine} {store : Cache.Store}
    (h : perform (openFound (machine home server) path) state = (.ok store, opened)) :
    ∃ content, opened.disk.entry? (Path.landing opened.disk.current path) =
      some (.file content) := by
  rw [openFound, perform_bind_of_ok (perform_isThere path)] at h
  split at h
  · rw [perform_bind, perform_readText] at h
    cases htext : textAt state.disk path with
    | error reason =>
        rw [htext] at h
        cases h
    | ok text =>
        rw [htext] at h
        dsimp only at h
        split at h
        · cases h
          obtain ⟨content, hfile, _⟩ := exists_of_textAt htext
          exact ⟨content, hfile⟩
        · cases h
  · rw [perform_bind, perform_writeText] at h
    cases hwrite : state.disk.write path Cache.Store.empty.render.toUTF8 with
    | error reason =>
        rw [hwrite] at h
        cases h
    | ok disk =>
        rw [hwrite] at h
        cases h
        obtain ⟨place, htakes, rfl⟩ := Disk.exists_takes hwrite
        refine ⟨Cache.Store.empty.render.toUTF8, ?_⟩
        rw [Disk.current_put, ← Disk.landing_of_place htakes.leads,
          Disk.entry?_put_self _ (Disk.ne_nil_of_ne_directory htakes.free)]

/-- There is a file where a store was opened. -/
theorem file_of_openStore {state opened : DiskMachine} {store : Cache.Store}
    (h : perform (openStore (machine home server) path) state = (.ok store, opened)) :
    ∃ content, opened.disk.entry? (Path.landing opened.disk.current path) =
      some (.file content) := by
  rw [openStore_eq] at h
  cases hparent : Path.parent? path with
  | none =>
      rw [hparent] at h
      exact file_of_openFound h
  | some directory =>
      rw [hparent, perform_bind] at h
      cases hmake : perform ((machine home server).needDirectory directory) state with
      | mk result made =>
          rw [hmake] at h
          cases result with
          | error reason => cases h
          | ok _ => exact file_of_openFound h

/-- What a service was opened as. -/
theorem exists_of_openFor {state opened : DiskMachine} {service : Service}
    (hclient : Wiki.Client.ofSettings settings.wiki = .ok client)
    (h : perform (openFor (machine home server) settings useCache) state = (.ok service, opened)) :
    service = ⟨client, .fresh .empty, none⟩ ∧ opened = state ∨
      ∃ store, service = ⟨client, .fresh store, some (Path.expand home settings.cache.path)⟩ ∧
        perform (openStore (machine home server) (Path.expand home settings.cache.path)) state =
          (.ok store, opened) := by
  rw [openFor_eq hclient] at h
  dsimp only at h
  split at h
  · right
    rw [perform_bind] at h
    cases hstore : perform (openStore (machine home server)
        (Path.expand home settings.cache.path)) state with
    | mk result after =>
        rw [hstore] at h
        cases result with
        | error reason => cases h
        | ok store =>
            cases h
            exact ⟨store, rfl, rfl⟩
  · cases h
    exact .inl ⟨rfl, rfl⟩

/-- The cache of a service that was opened is kept in a file. -/
theorem exists_file_of_openFor {state opened : DiskMachine} {service : Service}
    (h : perform (openFor (machine home server) settings useCache) state = (.ok service, opened))
    (hfile : service.file = some path) :
    ∃ content, opened.disk.entry? (Path.landing opened.disk.current path) =
      some (.file content) := by
  cases hclient : Wiki.Client.ofSettings settings.wiki with
  | error reason =>
      rw [openFor, hclient] at h
      cases h
  | ok client =>
      rcases exists_of_openFor hclient h with ⟨rfl, rfl⟩ | ⟨store, rfl, hstore⟩
      · cases hfile
      · cases hfile
        exact file_of_openStore hstore

end

end Command.Service

end ArticleTree
