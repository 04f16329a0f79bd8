import ArticleTree.Proofs.Command.TidyNames
import ArticleTree.Proofs.Command.Written

/-! # Which files a command writes

Articles that are written to a directory are the files of the directory that their titles name.
Whatever the titles are, no other file of the disk is written or changed, but for the one that the
cache is kept in.
-/

namespace ArticleTree

theorem Path.landing_join (current : List String) (directory : String) {name : String}
    (h : IsName name) :
    landing current (join directory name) = landing current directory ++ [name] := by
  rw [landing, landing, steps_join directory h, beginsWith_join directory h, List.foldl_append,
    List.foldl_cons, List.foldl_nil, beyond, beq_eq_false_iff_ne.2 h.notUp, if_neg (by simp)]

namespace Disk

variable {disk after : Disk} {place other : List String} {content : ByteArray}

/-- What the file at a place holds, if there is a file. -/
def file? (disk : Disk) (place : List String) : Option ByteArray :=
  match disk.entry? place with
  | some (.file content) => some content
  | _ => none

theorem file?_eq_some :
    disk.file? place = some content ↔ disk.entry? place = some (.file content) := by
  rw [file?]
  split
  · rename_i there hthere
    rw [hthere, Option.some.injEq, Option.some.injEq, DiskEntry.file.injEq]
  · rename_i hnone
    constructor
    · intro h
      cases h
    · intro h
      exact absurd h (hnone content)

theorem file?_put_of_ne (h : other ≠ place) (entry : DiskEntry) :
    (disk.put place entry).file? other = disk.file? other := by
  rw [file?, file?, entry?_put_of_ne disk h]

theorem file?_makeOnWay {names : List String} (h : makeOnWay place names disk = .ok after) :
    after.file? other = disk.file? other := by
  ext content
  rw [file?_eq_some, file?_eq_some, file_makeOnWay_iff h]

end Disk

namespace Command

open DiskMachine

/-- The file that a command keeps its cache in, if it keeps one. -/
def cachePlace? (home : String) (useCache : Bool) (disk : Disk) : Option (List String) :=
  match settingsOn home disk with
  | .ok settings =>
      let path := Path.expand home settings.cache.path
      if settings.cache.enabled && useCache && !Service.isNowhere path then
        some (Path.landing disk.current path)
      else none
  | .error _ => none

/-- The files of a disk are as they were, but for a file that a cache is kept in, and for files
    of a directory. -/
structure Spares (before : Disk) (cache : Option (List String)) (directory : List String)
    (names : List String) (state : DiskMachine) : Prop where
  current : state.disk.current = before.current
  files : ∀ place, state.disk.file? place = before.file? place ∨ cache = some place ∨
    state.disk.entry? directory = some .directory ∧ ∃ name ∈ names, place = directory ++ [name]

section

variable {before : Disk} {cache : Option (List String)} {place : List String} {names : List String}
  {home : String} {server : Http.Request → Option Http.Response} {path text directory : String}
  {settings : Settings} {options : Options} {useCache : Bool} {service : Service} {α : Type}
  {titles : List String}

namespace Spares

variable {state : DiskMachine}

protected theorem refl : Spares state.disk cache place names state where
  current := rfl
  files _ := .inl rfl

/-- Directories are only added, and no file is changed but one that may be. -/
theorem step (h : Spares before cache place names state) {disk : Disk}
    (hcurrent : disk.current = state.disk.current) (hkeeps : state.disk.Keeps disk)
    (hfiles : ∀ other, disk.file? other = state.disk.file? other ∨ cache = some other ∨
      disk.entry? place = some .directory ∧ ∃ name ∈ names, other = place ++ [name]) :
    Spares before cache place names { state with disk } where
  current := hcurrent.trans h.current
  files other := by
    rcases hfiles other with hsame | hchanged
    · rcases h.files other with hbefore | hcache | ⟨hdirectory, hname⟩
      · exact .inl (hsame.trans hbefore)
      · exact .inr (.inl hcache)
      · exact .inr (.inr ⟨hkeeps _ hdirectory, hname⟩)
    · exact .inr hchanged

theorem writeText (h : cache = some (Path.landing before.current path) ∨
      ∃ name ∈ names, Path.landing before.current path = place ++ [name]) :
    Upholds (Spares before cache place names) ((machine home server).writeText path text)
      fun _ => True := by
  intro state hstate
  refine ⟨?_, fun _ _ => trivial⟩
  rw [perform_writeText]
  cases hwrite : state.disk.write path text.toUTF8 with
  | error reason => exact hstate
  | ok disk =>
      obtain ⟨written, htakes, rfl⟩ := Disk.exists_takes hwrite
      have hkeeps := Disk.keeps_put htakes.free text.toUTF8
      obtain rfl : written = Path.landing before.current path := by
        rw [← hstate.current]
        exact Disk.landing_of_place htakes.leads
      refine hstate.step rfl hkeeps fun other => ?_
      by_cases hsame : other = Path.landing before.current path
      · right
        rw [hsame]
        refine h.imp_right fun ⟨name, hname, hplace⟩ => ⟨hkeeps _ ?_, name, hname, hplace⟩
        have hparent := htakes.parent
        rwa [hplace, List.dropLast_concat] at hparent
      · exact .inl (Disk.file?_put_of_ne hsame _)

theorem needDirectory : Upholds (Spares before cache place names)
    ((machine home server).needDirectory path) fun _ => True := by
  intro state hstate
  refine ⟨?_, fun _ _ => trivial⟩
  rw [perform_needDirectory]
  cases hmake : state.disk.makeDirectories path with
  | error reason => exact hstate
  | ok disk =>
      exact hstate.step (Disk.current_of_makeOnWay hmake) (Disk.keeps_makeOnWay hmake)
        fun other => .inl (Disk.file?_makeOnWay hmake)

theorem readText : Upholds (Spares before cache place names)
    ((machine home server).readText path) fun _ => True := by
  intro state hstate
  rw [perform_readText]
  exact ⟨hstate, fun _ _ => trivial⟩

end Spares

/-- The cache of a service is kept where it may be. -/
def KeptIn (current : List String) (cache : Option (List String)) (service : Service) : Prop :=
  ∀ path, service.file = some path → cache = some (Path.landing current path)

theorem spares_openFor
    (hcache : settings.cache.enabled && useCache &&
      !Service.isNowhere (Path.expand home settings.cache.path) →
        cache = some (Path.landing before.current (Path.expand home settings.cache.path))) :
    Upholds (Spares before cache place names)
      (Service.openFor (machine home server) settings useCache) (KeptIn before.current cache) := by
  cases hclient : Wiki.Client.ofSettings settings.wiki with
  | error reason =>
      rw [Service.openFor, hclient]
      exact upholds_throw reason
  | ok client =>
      rw [Service.openFor_eq hclient]
      dsimp only
      split
      · rename_i hkept
        refine (Service.upholds_openStore (Q := fun _ => True) (fun _ => Spares.needDirectory)
          Spares.readText (Spares.writeText (.inl (hcache hkept))) (fun _ _ _ _ => trivial)
          trivial).bind fun store _ => upholds_pure ?_
        intro path hpath
        cases hpath
        exact hcache hkept
      · refine upholds_pure ?_
        intro path hpath
        cases hpath

theorem spares_convertAll (h : KeptIn before.current cache service)
    (htitles : ∀ title ∈ titles, fileName title ∈ names) :
    Upholds (Spares before cache (Path.landing before.current directory) names)
      (convertAll (machine home server) options (some directory) titles service)
      fun _ => True := by
  refine upholds_convertAll (fun title htitle service hservice => ?_) h
  refine (Service.upholds_convert fun path hpath =>
    Spares.writeText (.inl (hservice path hpath))).imp ?_
  rintro _ rfl
  refine ⟨hservice, fun article harticle => ?_⟩
  have hsame : article.title = title := title_of_returns (returns_of_converted harticle)
  refine Spares.writeText (.inr ⟨fileName title, htitles title htitle, ?_⟩)
  rw [hsame, ← fileName, Path.landing_join _ _ (isName_fileName title)]

/-- Whatever comes of the command, it spares the files that are not its own. -/
theorem spares_parse (state : DiskMachine) :
    Spares state.disk (cachePlace? home useCache state.disk)
      (Path.landing state.disk.current directory) (titles.map fileName)
      (perform (run (machine home server) (.parse titles (some directory) useCache)) state).2 := by
  rw [run]
  cases hsettings : settingsOn home state.disk with
  | error reason =>
      rw [runParse, perform_bind, perform_load, hsettings]
      exact Spares.refl
  | ok settings =>
      have hcache : settings.cache.enabled && useCache &&
          !Service.isNowhere (Path.expand home settings.cache.path) →
            cachePlace? home useCache state.disk = some (Path.landing state.disk.current
              (Path.expand home settings.cache.path)) := by
        intro hkept
        rw [cachePlace?, hsettings]
        exact if_pos hkept
      exact keeps_runParse hsettings (spares_openFor hcache) (fun _ => Spares.needDirectory)
        (fun _ hservice => spares_convertAll hservice fun _ => List.mem_map_of_mem) Spares.refl

end

/-- The name that a title gives to a file has words with one underscore between two of them. No
    character of it separates the names of a path, is a dot or is a control character, and a name
    is its own name. So whatever the titles are, and whatever comes of the command, the files that
    articles are written to stand in the directory that was asked for, under these names, and no
    other file is written but the one that the cache is kept in. -/
theorem articles_in_directory :
    (∀ title : String, IsTidy (slug title).toList ∧
      (∀ c ∈ (slug title).toList, c ≠ '/' ∧ c ≠ '\\' ∧ c ≠ '.' ∧ Text.isControl c = false) ∧
      slug (slug title) = slug title) ∧
    ∀ (home : String) (server : Http.Request → Option Http.Response) (titles : List String)
      (directory : String) (useCache : Bool) (state : DiskMachine) (place : List String),
      let after :=
        (perform (run (machine home server) (.parse titles (some directory) useCache)) state).2.disk
      let inside := Path.landing state.disk.current directory
      after.file? place = state.disk.file? place ∨
        cachePlace? home useCache state.disk = some place ∨
        after.entry? inside = some .directory ∧
          ∃ title ∈ titles, place = inside ++ [slug title ++ ".json"] := by
  refine ⟨fun title => ⟨isTidy_slug title, fun c hc => ?_, slug_slug title⟩, ?_⟩
  · exact plain_of_isWordChar_or ((isTidy_slug title).chars c hc)
  · intro home server titles directory useCache state place after inside
    refine ((spares_parse state).files place).imp_right (Or.imp_right ?_)
    rintro ⟨hdirectory, _, hname, hplace⟩
    obtain ⟨title, htitle, rfl⟩ := List.mem_map.1 hname
    exact ⟨hdirectory, title, htitle, hplace⟩

end Command

end ArticleTree
