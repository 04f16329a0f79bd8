import ArticleTree.Proofs.Cache.Kept
import ArticleTree.Proofs.Command.Conversion

/-! # What earlier runs leave in the cache

A cache may have been filled by any number of runs before. Whatever was asked for in them, and
however they ended, the file that the cache is kept in only holds what the wiki answered, as
long as all the runs that kept their cache there asked the same wiki. What articles are written
to is no matter either: should an article be written over the cache, what is there is no cache
any more.
-/

namespace ArticleTree

open Cache

namespace Cache.Store

/-- The store that a file holds, if it holds one. -/
def ofBytes? (content : ByteArray) : Option Store :=
  (String.fromUTF8? content).bind parse?

theorem ofBytes?_render {store : Store} (h : Keyed.Ascending store.entries) :
    ofBytes? store.render.toUTF8 = some store := by
  rw [ofBytes?, Text.fromUTF8?_toUTF8, Option.bind_some, parse?_render h]

end Cache.Store

/-! ## What stands where the cache is kept -/

/-- What stands at the place is no store, or one that only holds what was answered. -/
def Disk.TruthfulAt (inner : Call → Answer) (asked : List Call) (place : List String)
    (disk : Disk) : Prop :=
  ∀ content store, disk.entry? place = some (.file content) → Store.ofBytes? content = some store →
    store.Truthful Digest.ofText inner asked

/-- A machine whose paths begin at a place, and on which a cache is kept. -/
structure Keeping (inner : Call → Answer) (asked : List Call) (current place : List String)
    (state : DiskMachine) : Prop where
  current : state.disk.current = current
  truthful : state.disk.TruthfulAt inner asked place

/-- A text that is no store, or one that only holds what was answered. -/
def Harmless (inner : Call → Answer) (asked : List Call) (text : String) : Prop :=
  ∀ store, Store.parse? text = some store → store.Truthful Digest.ofText inner asked

variable {inner : Call → Answer} {asked more : List Call} {current place : List String}
  {home : String} {server : Http.Request → Option Http.Response} {path text : String}
  {state : DiskMachine}

/-- A text that does not begin as a store does, is none, or an empty one. -/
theorem harmless_of_not_prefix (h : ¬ Store.heading.toList <+: text.toList) :
    Harmless inner asked text := by
  intro store hstore
  cases hempty : text.isEmpty with
  | true =>
      rw [Store.parse?, if_pos hempty, Option.some.injEq] at hstore
      subst hstore
      exact Store.truthful_empty
  | false =>
      rw [Store.parse?_eq_none hempty h] at hstore
      cases hstore

theorem Cache.Store.Truthful.harmless {store : Store}
    (h : store.Truthful Digest.ofText inner asked) : Harmless inner asked store.render := by
  intro other hother
  rw [Store.parse?_render h.ascending] at hother
  cases hother
  exact h

/-- How the text of an article begins. -/
theorem toList_render (article : Article) : ∃ cs, article.render.toList =
    "\x7b\n  \"title\": ".toList ++ ((Json.printString article.title).toList ++ cs) := by
  have hstart : "\x7b\n  \"title\": ".toList =
      "\x7b".toList ++ ((Json.newLine (0 + 1)).toList ++
        ((Json.printString "title").toList ++ ": ".toList)) := by
    decide
  rw [Article.render, Article.toJson, Json.pretty, Json.prettyAt, Json.prettyFields,
    Json.prettyFields, Json.prettyFields, Json.inLines, hstart]
  simp only [List.isEmpty_cons, Bool.false_eq_true, if_false, String.intercalate_cons_cons,
    Json.prettyAt, String.toList_append, List.append_assoc]
  exact ⟨_, rfl⟩

/-- An article is no store. -/
theorem harmless_render (article : Article) : Harmless inner asked article.render := by
  obtain ⟨cs, hcs⟩ := toList_render article
  apply harmless_of_not_prefix
  rw [hcs]
  intro hprefix
  have hfirst := (List.cons_prefix_cons.1 hprefix).1
  revert hfirst
  decide

namespace Keeping

open DiskMachine

theorem mono (h : Keeping inner asked current place state) (hsub : asked ⊆ more) :
    Keeping inner more current place state where
  current := h.current
  truthful content store hfile hstore := (h.truthful content store hfile hstore).mono hsub

/-- Writing what is harmless does no harm, wherever it is written. -/
theorem writeText (h : Harmless inner asked text) :
    Upholds (Keeping inner asked current place) ((machine home server).writeText path text)
      fun _ => True := by
  intro state hstate
  refine ⟨?_, fun _ _ => trivial⟩
  rw [perform_writeText]
  cases hwrite : state.disk.write path text.toUTF8 with
  | error reason => exact hstate
  | ok disk =>
      obtain ⟨written, htakes, rfl⟩ := Disk.exists_takes hwrite
      refine ⟨hstate.current, ?_⟩
      intro content store hfile hstore
      by_cases hsame : place = written
      · subst hsame
        rw [Disk.entry?_put_self _ (Disk.ne_nil_of_ne_directory htakes.free), Option.some.injEq,
          DiskEntry.file.injEq] at hfile
        subst hfile
        rw [Store.ofBytes?, Text.fromUTF8?_toUTF8, Option.bind_some] at hstore
        exact h store hstore
      · rw [Disk.entry?_put_of_ne _ hsame] at hfile
        exact hstate.truthful content store hfile hstore

theorem needDirectory :
    Upholds (Keeping inner asked current place) ((machine home server).needDirectory path)
      fun _ => True := by
  intro state hstate
  refine ⟨?_, fun _ _ => trivial⟩
  rw [perform_needDirectory]
  cases hmake : state.disk.makeDirectories path with
  | error reason => exact hstate
  | ok disk =>
      refine ⟨(Disk.current_of_makeOnWay hmake).trans hstate.current, ?_⟩
      intro content store hfile hstore
      exact hstate.truthful content store ((Disk.file_makeOnWay_iff hmake).1 hfile) hstore

theorem readText (hplace : Path.landing current path = place) :
    Upholds (Keeping inner asked current place) ((machine home server).readText path)
      (Harmless inner asked) := by
  intro state hstate
  rw [perform_readText]
  refine ⟨hstate, ?_⟩
  intro text htext store hstore
  obtain ⟨content, hfile, hutf8⟩ := exists_of_textAt htext
  rw [hstate.current, hplace] at hfile
  refine hstate.truthful content store hfile ?_
  rw [Store.ofBytes?, hutf8, Option.bind_some, hstore]

theorem openStore (hplace : Path.landing current path = place) :
    Upholds (Keeping inner asked current place)
      (Command.Service.openStore (machine home server) path)
      (Store.Truthful Digest.ofText inner asked) :=
  Command.Service.upholds_openStore (fun _ => needDirectory) (readText hplace)
    (writeText Store.truthful_empty.harmless) (fun _ htext store hparse => htext store hparse)
    Store.truthful_empty

end Keeping

/-! ## Commands -/

namespace Command

open DiskMachine

/-- A service that asks one wiki, behind a cache that only holds what was answered. -/
structure Trusted (client : Wiki.Client) (inner : Call → Answer) (asked : List Call)
    (service : Service) : Prop where
  client : service.client = client
  store : service.memo.store.Truthful Digest.ofText inner asked

theorem Trusted.mono {client : Wiki.Client} {inner : Call → Answer} {asked more : List Call}
    {service : Service} (h : Trusted client inner asked service) (hsub : asked ⊆ more) :
    Trusted client inner more service :=
  ⟨h.client, h.store.mono hsub⟩

variable {client : Wiki.Client} {settings : Settings} {options : Options} {useCache : Bool}
  {service : Service} {α : Type}

theorem keeping_openFor (hclient : Wiki.Client.ofSettings settings.wiki = .ok client)
    (hplace : Path.landing current (Path.expand home settings.cache.path) = place) :
    Upholds (Keeping inner asked current place)
      (Service.openFor (machine home server) settings useCache) (Trusted client inner asked) := by
  rw [Service.openFor_eq hclient]
  dsimp only
  split
  · exact (Keeping.openStore hplace).bind fun store hstore => upholds_pure ⟨rfl, hstore⟩
  · exact upholds_pure ⟨rfl, Store.truthful_empty⟩

/-- A conversion behind the cache comes to what it comes to without it, and leaves no more in the
    cache than what was answered. -/
theorem Trusted.converted {s : Session α} (h : Trusted client (client.told server) asked service)
    (hkeys : KeysAgree Digest.ofText (client.told server) asked)
    (hcalls : (s.run (client.told server)).2 ⊆ asked) :
    (service.converted server s).1 = (s.run (client.told server)).1 ∧
      Trusted client (client.told server) asked (service.converted server s).2 := by
  obtain ⟨rfl, hstore⟩ := h
  obtain ⟨houtcome, hafter⟩ := Memo.runM_truthful hstore hkeys hcalls
  exact ⟨houtcome, rfl, hafter⟩

theorem keeping_convert {s : Session α} (h : Trusted client (client.told server) asked service)
    (hkeys : KeysAgree Digest.ofText (client.told server) asked)
    (hcalls : (s.run (client.told server)).2 ⊆ asked) :
    Upholds (Keeping (client.told server) asked current place)
      (service.convert (machine home server) s) fun result =>
        Trusted client (client.told server) asked result.2 := by
  have hafter := (h.converted hkeys hcalls).2
  refine (Service.upholds_convert fun _ _ => Keeping.writeText hafter.store.harmless).imp ?_
  rintro _ rfl
  exact hafter

theorem keeping_printLine : Upholds (Keeping inner asked current place)
    ((machine home server).printLine text) fun _ => True :=
  fun _ hstate => ⟨⟨hstate.current, hstate.truthful⟩, fun _ _ => trivial⟩

theorem keeping_deliver (out : Option String) (article : Article) :
    Upholds (Keeping inner asked current place)
      (deliver (machine home server) out article) fun _ => True := by
  cases out with
  | none => exact keeping_printLine
  | some directory => exact Keeping.writeText (harmless_render article)

/-- The calls that the conversion of an article makes. -/
def loadCalls (inner : Call → Answer) (options : Options) (title : String) : List Call :=
  ((Article.load options { title }).run inner).2

theorem keeping_convertAll {titles : List String} (out : Option String)
    (h : Trusted client (client.told server) asked service)
    (hkeys : KeysAgree Digest.ofText (client.told server) asked)
    (hcalls : titles.flatMap (loadCalls (client.told server) options) ⊆ asked) :
    Upholds (Keeping (client.told server) asked current place)
      (convertAll (machine home server) options out titles service) fun _ => True := by
  refine upholds_convertAll (fun title htitle service hservice => ?_) h
  have hload : loadCalls (client.told server) options title ⊆ asked :=
    fun _ hcall => hcalls (List.mem_flatMap.2 ⟨title, htitle, hcall⟩)
  exact (keeping_convert hservice hkeys hload).imp fun result hresult =>
    ⟨hresult, fun article _ => keeping_deliver out article⟩

/-- The calls that a command makes of a wiki. -/
def asks (home : String) (inner : Call → Answer) (disk : Disk) : Command → List Call
  | .parse titles _ _ =>
      match settingsOn home disk with
      | .ok settings => titles.flatMap (loadCalls inner settings.pipeline)
      | .error _ => []
  | .html file title =>
      match settingsOn home disk, textAt disk file, title <|> Path.stem? file with
      | .ok settings, .ok markup, some title =>
          ((Article.parseRendered settings.pipeline { title } markup).run inner).2
      | _, _, _ => []
  | .initSettings => []
  | .showSettings => []

theorem keeping_runParse {titles : List String} {out : Option String}
    (h : Keeping (client.told server) asked current place state)
    (hsettings : settingsOn home state.disk = .ok settings)
    (hclient : Wiki.Client.ofSettings settings.wiki = .ok client)
    (hplace : Path.landing current (Path.expand home settings.cache.path) = place)
    (hkeys : KeysAgree Digest.ofText (client.told server) asked)
    (hcalls : titles.flatMap (loadCalls (client.told server) settings.pipeline) ⊆ asked) :
    Keeping (client.told server) asked current place
      (perform (runParse (machine home server) titles out useCache) state).2 :=
  keeps_runParse hsettings (keeping_openFor hclient hplace) (fun _ => Keeping.needDirectory)
    (fun _ hservice => keeping_convertAll out hservice hkeys hcalls) h

theorem keeping_runHtml {file title html : String} {given : Option String}
    (h : Keeping (client.told server) asked current place state)
    (hhtml : textAt state.disk file = .ok html)
    (htitle : (given <|> Path.stem? file) = some title)
    (hsettings : settingsOn home state.disk = .ok settings)
    (hclient : Wiki.Client.ofSettings settings.wiki = .ok client)
    (hplace : Path.landing current (Path.expand home settings.cache.path) = place)
    (hkeys : KeysAgree Digest.ofText (client.told server) asked)
    (hcalls : ((Article.parseRendered settings.pipeline { title } html).run
      (client.told server)).2 ⊆ asked) :
    Keeping (client.told server) asked current place
      (perform (runHtml (machine home server) file given) state).2 := by
  have hread : perform ((machine home server).readText file) state = (.ok html, state) := by
    rw [perform_readText, hhtml]
  have hload : perform (Settings.load (machine home server)) state = (.ok settings, state) := by
    rw [perform_load, hsettings]
  rw [runHtml, perform_bind_of_ok hread, htitle]
  dsimp only
  rw [perform_bind_of_ok hload]
  refine Upholds.keeps (Q := fun _ => True) ?_ h
  refine (keeping_openFor hclient hplace).bind fun service hservice => ?_
  refine (keeping_convert hservice hkeys hcalls).bind fun result hresult => ?_
  obtain ⟨outcome, after⟩ := result
  cases outcome with
  | ok content => exact keeping_printLine.bind fun _ _ => upholds_pure trivial
  | failed reason => exact upholds_throw reason
  | tooDeep => exact upholds_pure trivial

/-- Settings are no store. -/
theorem harmless_settings (settings : Settings) : Harmless inner asked settings.render := by
  obtain ⟨cs, hcs⟩ : ∃ cs, settings.render.toList = '[' :: cs := by
    simp only [Settings.render, Toml.printTables, Toml.printTable, List.map_cons,
      String.intercalate_cons_cons, String.toList_append, List.append_assoc]
    exact ⟨_, rfl⟩
  apply harmless_of_not_prefix
  rw [hcs]
  intro hprefix
  have hfirst := (List.cons_prefix_cons.1 hprefix).1
  revert hfirst
  decide

theorem keeping_initialise : Upholds (Keeping inner asked current place)
    (Settings.initialise (machine home server)) fun _ => True :=
  Keeping.needDirectory.bind fun _ _ =>
    (Keeping.writeText (harmless_settings _)).bind fun _ _ => upholds_pure trivial

/-- Whatever a command does, and however it ends, the cache only holds what was answered. -/
theorem keeping_run (command : Command)
    (h : Keeping (client.told server) asked current place state)
    (hsettings : ∀ settings, settingsOn home state.disk = .ok settings →
      Wiki.Client.ofSettings settings.wiki = .ok client ∧
        Path.landing current (Path.expand home settings.cache.path) = place)
    (hkeys : KeysAgree Digest.ofText (client.told server)
      (asked ++ asks home (client.told server) state.disk command)) :
    Keeping (client.told server) (asked ++ asks home (client.told server) state.disk command)
      current place (perform (run (machine home server) command) state).2 := by
  have hmore := h.mono (List.subset_append_left asked
    (asks home (client.told server) state.disk command))
  have hcalls := List.subset_append_right asked
    (asks home (client.told server) state.disk command)
  have hload := perform_load home server state
  cases command with
  | parse titles out useCache =>
      cases hfound : settingsOn home state.disk with
      | error reason =>
          rw [hfound] at hload
          rw [run, runParse, perform_bind_of_error hload]
          exact hmore
      | ok settings =>
          obtain ⟨hclient, hplace⟩ := hsettings settings hfound
          refine keeping_runParse hmore hfound hclient hplace hkeys ?_
          simp only [asks, hfound] at hcalls ⊢
          exact hcalls
  | html file given =>
      rw [run]
      cases hmarkup : textAt state.disk file with
      | error reason =>
          rw [runHtml, perform_bind, perform_readText, hmarkup]
          exact hmore
      | ok markup =>
          cases htitle : given <|> Path.stem? file with
          | none =>
              rw [runHtml, perform_bind, perform_readText, hmarkup, htitle]
              exact hmore
          | some title =>
              cases hfound : settingsOn home state.disk with
              | error reason =>
                  rw [hfound] at hload
                  rw [runHtml, perform_bind, perform_readText, hmarkup, htitle]
                  dsimp only
                  rw [perform_bind_of_error hload]
                  exact hmore
              | ok settings =>
                  obtain ⟨hclient, hplace⟩ := hsettings settings hfound
                  refine keeping_runHtml hmore hmarkup htitle hfound hclient hplace hkeys ?_
                  simp only [asks, hfound, hmarkup, htitle] at hcalls ⊢
                  exact hcalls
  | initSettings =>
      exact (keeping_initialise.bind fun _ _ => keeping_printLine.bind
        fun _ _ => upholds_pure (Q := fun _ => True) trivial).keeps hmore
  | showSettings =>
      rw [run, perform_bind, hload]
      cases settingsOn home state.disk with
      | error reason => exact hmore
      | ok settings =>
          exact (keeping_printLine.bind
            fun _ _ => upholds_pure (Q := fun _ => True) trivial).keeps hmore

/-! ## Runs one after the other -/

/-- What happened to a machine since the cache at a place was empty. The runs keep their cache
    there and ask one wiki; `asked` are the calls that they made. -/
inductive History (home : String) (server : Http.Request → Option Http.Response)
    (client : Wiki.Client) (place : List String) : (asked : List Call) → DiskMachine → Prop
  /-- There is no cache, or an empty one. -/
  | blank {state : DiskMachine}
      (h : ∀ content store, state.disk.entry? place = some (.file content) →
        Store.ofBytes? content = some store → store = .empty) :
      History home server client place [] state
  /-- The program was run. -/
  | run {asked : List Call} {state : DiskMachine} (command : Command)
      (h : History home server client place asked state)
      (hsettings : ∀ settings, settingsOn home state.disk = .ok settings →
        Wiki.Client.ofSettings settings.wiki = .ok client ∧
          Path.landing state.disk.current (Path.expand home settings.cache.path) = place) :
      History home server client place (asked ++ asks home (client.told server) state.disk command)
        (perform (Command.run (machine home server) command) state).2
  /-- Something else was changed, and the cache was left alone, or emptied, or taken away. -/
  | change {asked : List Call} {state after : DiskMachine}
      (h : History home server client place asked state)
      (hsame : ∀ content store, after.disk.entry? place = some (.file content) →
        Store.ofBytes? content = some store →
          state.disk.entry? place = some (.file content) ∨ store = .empty) :
      History home server client place asked after

theorem History.truthful {asked : List Call} {state : DiskMachine}
    (h : History home server client place asked state)
    (hkeys : KeysAgree Digest.ofText (client.told server) asked) :
    state.disk.TruthfulAt (client.told server) asked place := by
  induction h with
  | blank hblank =>
      intro content store hfile hstore
      rw [hblank content store hfile hstore]
      exact Store.truthful_empty
  | run command _ hsettings ih =>
      have hbefore := ih (hkeys.mono (List.subset_append_left _ _))
      exact (keeping_run command ⟨rfl, hbefore⟩ hsettings hkeys).truthful
  | change _ hsame ih =>
      intro content store hfile hstore
      rcases hsame content store hfile hstore with hkept | rfl
      · exact ih hkeys content store hkept hstore
      · exact Store.truthful_empty

end Command

end ArticleTree
