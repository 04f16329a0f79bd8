import ArticleTree.Proofs.Command.History

/-! # Converting several articles

The articles of a command share a cache, so each is converted with what the ones before left
there, and with what earlier runs left there. None of this can be seen in what is printed: each
article is printed as it comes out of a conversion of its own, with the wiki alone to ask, and
one that cannot be converted is only missing. This is said of conversions that come to an end; one
that does not would bring the program down, and the articles after it with it.
-/

namespace ArticleTree.Command

open Cache DiskMachine

variable {home : String} {server : Http.Request → Option Http.Response} {state : DiskMachine}
  {client : Wiki.Client} {asked : List Call} {service : Service} {options : Options}
  {settings : Settings} {useCache : Bool}

/-- The article that comes out of a conversion of its own, if that succeeds. -/
def article? (inner : Call → Answer) (options : Options) (title : String) : Option Article :=
  match ((Article.load options { title }).run inner).1 with
  | .ok article => some article
  | _ => none

/-- The conversion of the article, with the wiki alone to ask, comes to an end: its content is not
    nested in content too deeply to be followed. -/
def Ends (inner : Call → Answer) (options : Options) (title : String) : Prop :=
  ((Article.load options { title }).run inner).1 ≠ .tooDeep

/-- What is printed of the conversions that succeed. -/
def printedOf (articles : List (Option Article)) : String :=
  String.join ((articles.filterMap id).map fun article => article.render ++ "\n")

theorem printedOf_nil : printedOf [] = "" := rfl

theorem printedOf_some (article : Article) (articles : List (Option Article)) :
    printedOf (some article :: articles) = article.render ++ "\n" ++ printedOf articles := by
  simp [printedOf]

theorem printedOf_none (articles : List (Option Article)) :
    printedOf (none :: articles) = printedOf articles := rfl

theorem article?_eq_some {inner : Call → Answer} {title : String} {article : Article} :
    article? inner options title = some article ↔
      ((Article.load options { title }).run inner).1 = .ok article := by
  rw [article?]
  split
  · rename_i found hok
    rw [hok, Option.some.injEq, Outcome.ok.injEq]
  · rename_i hnone
    constructor
    · intro hsome
      cases hsome
    · intro hok
      exact absurd hok (hnone article)

/-! ## One article after the other -/

section

variable {out : Option String} {title : String} {titles : List String} {after : Service}
  {converted delivered : DiskMachine}

theorem perform_convertAll_of_ok {article : Article}
    (hconvert : perform (service.convert (machine home server) (Article.load options { title }))
      state = (.ok (.ok article, after), converted))
    (hdeliver : perform (deliver (machine home server) out article) converted =
      (.ok (), delivered)) :
    perform (convertAll (machine home server) options out (title :: titles) service) state =
      perform (convertAll (machine home server) options out titles after) delivered := by
  rw [convertAll, perform_bind_of_ok hconvert]
  exact perform_bind_of_ok hdeliver

/-- An article that cannot be put where it goes ends the command. -/
theorem perform_convertAll_of_error {article : Article} {reason : Failure}
    (hconvert : perform (service.convert (machine home server) (Article.load options { title }))
      state = (.ok (.ok article, after), converted))
    (hdeliver : perform (deliver (machine home server) out article) converted =
      (.error reason, delivered)) :
    perform (convertAll (machine home server) options out (title :: titles) service) state =
      (.error reason, delivered) := by
  rw [convertAll, perform_bind_of_ok hconvert]
  exact perform_bind_of_error hdeliver

theorem perform_convertAll_of_failed {reason : Failure} {counted : Option Nat}
    (hconvert : perform (service.convert (machine home server) (Article.load options { title }))
      state = (.ok (.failed reason, after), converted))
    (hrest : perform (convertAll (machine home server) options out titles after) converted =
      (.ok counted, delivered)) :
    perform (convertAll (machine home server) options out (title :: titles) service) state =
      (.ok (counted.map (· + 1)), delivered) := by
  rw [convertAll, perform_bind_of_ok hconvert]
  exact perform_bind_of_ok hrest

end

/-- Articles that are converted behind a cache are printed as by conversions of their own, and
    those that are not are counted. -/
theorem perform_convertAll (state : DiskMachine) {titles : List String}
    (h : Trusted client (client.told server) asked service) (hstores : service.Stores state.disk)
    (hkeys : KeysAgree Digest.ofText (client.told server) asked)
    (hcalls : titles.flatMap (loadCalls (client.told server) options) ⊆ asked)
    (hends : ∀ title ∈ titles, Ends (client.told server) options title) :
    let articles := titles.map (article? (client.told server) options)
    ∃ disk, perform (convertAll (machine home server) options none titles service) state =
      (.ok (some (articles.countP Option.isNone)),
        ⟨disk, state.printed ++ printedOf articles⟩) := by
  intro articles
  induction titles generalizing service state with
  | nil => exact ⟨state.disk, by simp [articles, convertAll, printedOf]⟩
  | cons title titles ih =>
      rw [List.flatMap_cons, List.append_subset] at hcalls
      obtain ⟨hend, hends⟩ := List.forall_mem_cons.1 hends
      obtain ⟨houtcome, hafter⟩ := h.converted hkeys hcalls.1
      obtain ⟨disk, hsaved, hconvert⟩ :=
        Service.exists_convert home server (Article.load options { title }) hstores
      have hrest : (service.converted server (Article.load options { title })).2.Stores disk :=
        hsaved.stores hstores
      generalize service.converted server (Article.load options { title }) = result at *
      obtain ⟨outcome, after⟩ := result
      cases outcome with
      | ok article =>
          have hdeliver : perform (deliver (machine home server) none article)
              { state with disk } =
                (.ok (), ⟨disk, state.printed ++ (article.render ++ "\n")⟩) := rfl
          obtain ⟨last, hlater⟩ :=
            ih ⟨disk, state.printed ++ (article.render ++ "\n")⟩ hafter hrest hcalls.2 hends
          refine ⟨last, ?_⟩
          rw [perform_convertAll_of_ok hconvert hdeliver, hlater]
          simp [articles, article?_eq_some.2 houtcome.symm, printedOf_some, String.append_assoc]
      | failed reason =>
          obtain ⟨last, hlater⟩ := ih { state with disk } hafter hrest hcalls.2 hends
          refine ⟨last, ?_⟩
          rw [perform_convertAll_of_failed hconvert hlater]
          have harticle : article? (client.told server) options title = none := by
            rw [article?, ← houtcome]
          simp [articles, harticle, printedOf_none]
      -- Behind the cache a conversion goes as deep as it does alone.
      | tooDeep => exact absurd houtcome.symm hend

/-! ## The command -/

/-- A service that was opened is behind a cache that only holds what was answered. -/
theorem trusted_of_openFor {opened : DiskMachine}
    (hclient : Wiki.Client.ofSettings settings.wiki = .ok client)
    (hopen : perform (Service.openFor (machine home server) settings useCache) state =
      (.ok service, opened))
    (hhistory : ∀ path, service.file = some path →
      History home server client (Path.landing state.disk.current path) asked state)
    (hkeys : KeysAgree Digest.ofText (client.told server) asked) :
    Trusted client (client.told server) asked service := by
  rcases Service.exists_of_openFor hclient hopen with ⟨rfl, rfl⟩ | ⟨store, rfl, hstore⟩
  · exact ⟨rfl, Store.truthful_empty⟩
  · have hkeeping : Keeping (client.told server) asked state.disk.current
        (Path.landing state.disk.current (Path.expand home settings.cache.path)) state :=
      ⟨rfl, (hhistory _ rfl).truthful hkeys⟩
    exact ⟨rfl, (Keeping.openStore rfl).value hkeeping hstore⟩

/-- Nothing failed if every article is there. -/
theorem ofFailed_countP (articles : List (Option Article)) :
    Ending.ofFailed (some (articles.countP Option.isNone)) =
      if articles.all Option.isSome then .success else .failure := by
  have hfailed : articles.countP Option.isNone = 0 ↔ articles.all Option.isSome = true := by
    simp [List.countP_eq_zero, List.all_eq_true, Option.isSome_iff_ne_none]
  simp only [← hfailed]
  cases articles.countP Option.isNone <;> rfl

/-- Articles are printed in the order in which they are asked for, each as by a conversion of its
    own with the wiki alone to ask, and the command fails if one of these fails. All of them are
    to come to an end. What the cache is kept in plays no part, nor what is in it: it may have been
    filled by runs before that asked the same wiki. Of the keys it is enough that calls with the
    same key are answered alike. -/
theorem parse_separately (titles : List String)
    (hsettings : settingsOn home state.disk = .ok settings)
    (hclient : Wiki.Client.ofSettings settings.wiki = .ok client) {opened : DiskMachine}
    (hopen : perform (Service.openFor (machine home server) settings useCache) state =
      (.ok service, opened))
    (hstores : service.Stores opened.disk)
    (hhistory : ∀ path, service.file = some path →
      History home server client (Path.landing state.disk.current path) asked state)
    (hkeys : KeysAgree Digest.ofText (client.told server)
      (asked ++ titles.flatMap (loadCalls (client.told server) settings.pipeline)))
    (hends : ∀ title ∈ titles, Ends (client.told server) settings.pipeline title) :
    let articles := titles.map (article? (client.told server) settings.pipeline)
    ∃ disk, perform (run (machine home server) (.parse titles none useCache)) state =
      (.ok (if articles.all Option.isSome then .success else .failure),
        ⟨disk, state.printed ++ printedOf articles⟩) := by
  intro articles
  have hload : perform (Settings.load (machine home server)) state = (.ok settings, state) := by
    rw [perform_load, hsettings]
  have htrusted : Trusted client (client.told server)
      (asked ++ titles.flatMap (loadCalls (client.told server) settings.pipeline)) service :=
    (trusted_of_openFor hclient hopen hhistory
      (hkeys.mono (List.subset_append_left _ _))).mono (List.subset_append_left _ _)
  obtain ⟨disk, hconvert⟩ := perform_convertAll opened htrusted hstores hkeys
    (List.subset_append_right _ _) hends
  have hprinted : opened.printed = state.printed := by
    have hkept : (perform (Service.openFor (machine home server) settings useCache) state).2.printed
        = state.printed :=
      (Service.upholds_openFor_printed hclient state.printed).keeps rfl
    rwa [hopen] at hkept
  refine ⟨disk, ?_⟩
  rw [run, runParse, perform_bind_of_ok hload, perform_bind_of_ok hopen]
  refine (perform_bind_of_ok hconvert).trans ?_
  rw [perform_pure, ofFailed_countP, hprinted]

/-- A wiki that has every article but one, each with the same text, which is rendered as it is. -/
def wikibooks (request : Http.Request) : Option Http.Response :=
  match request.method with
  | .get =>
      if Text.contains "Fehlt" request.url.print then none
      else some ⟨200, none, ("\x7b\"query\":\x7b\"pages\":[\x7b\"revisions\":[\x7b\"slots\":" ++
        "\x7b\"main\":\x7b\"content\":\"text\"\x7d\x7d\x7d]\x7d]\x7d\x7d").toUTF8, true⟩
  | .post => some ⟨200, none, "text".toUTF8, true⟩

/-- How the wiki is asked with the default settings. -/
def wikibooksClient : Wiki.Client where
  api := ⟨"https", some ⟨"", none, .name "de.wikibooks.org", none⟩, .segments ["w", "api.php"],
    none, none⟩
  rest := ⟨"https", some ⟨"", none, .name "de.wikibooks.org", none⟩, .segments ["api", "rest_v1"],
    none, none⟩

theorem ofSettings_defaults : Wiki.Client.ofSettings {} = .ok wikibooksClient := by
  decide +kernel

/-- The wiki has an article with the title. -/
structure OnWikibooks (title : String) : Prop where
  content : wikibooksClient.told wikibooks (.getContent title) = .ok "text"
  rendered : wikibooksClient.told wikibooks (.renderHtml title "text") = .ok "text"

theorem OnWikibooks.run_load {title : String} (h : OnWikibooks title) :
    (Article.load {} { title }).run (wikibooksClient.told wikibooks) =
      (.ok ⟨title, [.text "text"]⟩, [.getContent title, .renderHtml title "text"]) := by
  have hload : (Article.load {} { title }).run (fun _ => .ok "text") =
      (.ok ⟨title, [.text "text"]⟩, [.getContent title, .renderHtml title "text"]) := by
    with_unfolding_all rfl
  rw [← hload]
  refine Session.run_congr ?_
  simp [hload, h.content, h.rendered]

theorem OnWikibooks.article?_eq {title : String} (h : OnWikibooks title) :
    article? (wikibooksClient.told wikibooks) {} title = some ⟨title, [.text "text"]⟩ :=
  article?_eq_some.2 (congrArg Prod.fst h.run_load)

theorem OnWikibooks.ends {title : String} (h : OnWikibooks title) :
    Ends (wikibooksClient.told wikibooks) {} title := by
  simp [Ends, h.run_load]

theorem OnWikibooks.loadCalls_eq {title : String} (h : OnWikibooks title) :
    loadCalls (wikibooksClient.told wikibooks) {} title =
      [.getContent title, .renderHtml title "text"] :=
  congrArg Prod.snd h.run_load

/-- All that is asked for such articles is answered alike. -/
theorem told_of_mem_loadCalls {titles : List String} (h : ∀ title ∈ titles, OnWikibooks title) :
    ∀ call ∈ titles.flatMap (loadCalls (wikibooksClient.told wikibooks) {}),
      wikibooksClient.told wikibooks call = .ok "text" := by
  intro call hcall
  obtain ⟨title, htitle, hmem⟩ := List.mem_flatMap.1 hcall
  have hfound := h title htitle
  rw [hfound.loadCalls_eq] at hmem
  simp only [List.mem_cons, List.not_mem_nil, or_false] at hmem
  rcases hmem with rfl | rfl
  · exact hfound.content
  · exact hfound.rendered

theorem onWikibooks_folgen : OnWikibooks "Folgen" where
  content := by decide +kernel
  rendered := by decide +kernel

theorem onWikibooks_c : OnWikibooks "C" where
  content := by decide +kernel
  rendered := by decide +kernel

theorem run_load_of_missing {inner : Call → Answer} {title : String} {reason : Failure}
    (h : inner (.getContent title) = .error reason) :
    (Article.load options { title }).run inner = (.failed reason, [.getContent title]) := by
  rw [Article.load, Session.getContent, Session.request, Session.ask_bind, Session.run, h]
  rfl

theorem run_load_fehlt :
    ∃ reason, (Article.load {} { title := "Fehlt" }).run (wikibooksClient.told wikibooks) =
      (.failed reason, [.getContent "Fehlt"]) := by
  have hfails : (wikibooksClient.told wikibooks (.getContent "Fehlt")).isOk = false := by
    decide +kernel
  cases h : wikibooksClient.told wikibooks (.getContent "Fehlt") with
  | error reason => exact ⟨reason, run_load_of_missing h⟩
  | ok text =>
      rw [h] at hfails
      cases hfails

theorem article?_fehlt : article? (wikibooksClient.told wikibooks) {} "Fehlt" = none := by
  obtain ⟨reason, hrun⟩ := run_load_fehlt
  rw [article?, hrun]

theorem ends_fehlt : Ends (wikibooksClient.told wikibooks) {} "Fehlt" := by
  obtain ⟨reason, hrun⟩ := run_load_fehlt
  simp [Ends, hrun]

theorem loadCalls_fehlt :
    loadCalls (wikibooksClient.told wikibooks) {} "Fehlt" = [.getContent "Fehlt"] := by
  obtain ⟨reason, hrun⟩ := run_load_fehlt
  rw [loadCalls, hrun]

/-- A machine with nothing but the user's own directory. -/
def newMachine : DiskMachine :=
  ⟨⟨[(["home"], .directory)], ["home"]⟩, ""⟩

/-- The machine after the first run, in which nothing was found that could be stored. -/
def usedMachine : DiskMachine where
  disk :=
    { entries := [(["home", ".mfnf", "cache.db"], .file Store.empty.render.toUTF8),
        (["home", ".mfnf"], .directory), (["home"], .directory)]
      current := ["home"] }
  printed := ""

theorem blank_usedMachine : History "/home" wikibooks wikibooksClient
    ["home", ".mfnf", "cache.db"] [] usedMachine := by
  refine .blank ?_
  intro content store hfile hstore
  have hempty : Store.ofBytes? Store.empty.render.toUTF8 = some .empty :=
    Store.ofBytes?_render Keyed.ascending_nil
  have hcache : usedMachine.disk.entry? ["home", ".mfnf", "cache.db"] =
      some (.file Store.empty.render.toUTF8) := rfl
  rw [hcache, Option.some.injEq, DiskEntry.file.injEq] at hfile
  rw [← hfile, hempty, Option.some.injEq] at hstore
  exact hstore.symm

theorem history_usedMachine : History "/home" wikibooks wikibooksClient
    ["home", ".mfnf", "cache.db"] [.getContent "Fehlt"] usedMachine := by
  have hblank : History "/home" wikibooks wikibooksClient ["home", ".mfnf", "cache.db"] []
      newMachine := .blank (by rintro content store ⟨⟩)
  have hused : (perform (run (machine "/home" wikibooks) (.parse ["Fehlt"] none true))
      newMachine).2 = usedMachine := by
    decide +kernel
  have hload : settingsOn "/home" newMachine.disk = .ok {} := by
    decide +kernel
  have hasks : [] ++ asks "/home" (wikibooksClient.told wikibooks) newMachine.disk
      (.parse ["Fehlt"] none true) = [.getContent "Fehlt"] := by
    rw [asks, hload]
    exact (List.append_nil _).trans loadCalls_fehlt
  rw [← hused, ← hasks]
  refine hblank.run (.parse ["Fehlt"] none true) ?_
  intro settings hsettings
  rw [hload, Except.ok.injEq] at hsettings
  subst hsettings
  exact ⟨ofSettings_defaults, by decide +kernel⟩

theorem settingsOn_usedMachine : settingsOn "/home" usedMachine.disk = .ok {} := by
  decide +kernel

/-- The service that the machine opens, with what was stored before: nothing. -/
def usedService : Service :=
  ⟨wikibooksClient, .fresh .empty, some "/home/.mfnf/cache.db"⟩

theorem openFor_usedMachine :
    perform (Service.openFor (machine "/home" wikibooks) {} true) usedMachine =
      (.ok usedService, usedMachine) := by
  decide +kernel

theorem stores_usedMachine : usedService.Stores usedMachine.disk := by
  have hwrite : usedMachine.disk.write "/home/.mfnf/cache.db" Store.empty.render.toUTF8 =
      .ok usedMachine.disk := by
    decide +kernel
  exact Service.stores_of_write rfl hwrite

theorem parse_separately_wikibooks :
    let folgen : Article := ⟨"Folgen", [.text "text"]⟩
    let c : Article := ⟨"C", [.text "text"]⟩
    (∃ disk, perform (run (machine "/home" wikibooks)
        (.parse ["Folgen", "C", "Folgen"] none true)) usedMachine =
      (.ok .success,
        ⟨disk, folgen.render ++ "\n" ++ (c.render ++ "\n" ++ (folgen.render ++ "\n"))⟩)) ∧
    ∃ disk, perform (run (machine "/home" wikibooks)
        (.parse ["Fehlt", "Fehlt"] none true)) usedMachine = (.ok .failure, ⟨disk, ""⟩) := by
  intro folgen c
  have hnothing : usedMachine.printed = "" := rfl
  constructor
  · have hthere : ∀ title ∈ ["Folgen", "C", "Folgen"], OnWikibooks title := by
      simp [onWikibooks_folgen, onWikibooks_c]
    have hhistory : ∀ path, usedService.file = some path → History "/home" wikibooks
        wikibooksClient (Path.landing usedMachine.disk.current path) [] usedMachine := by
      rintro path ⟨⟩
      exact blank_usedMachine
    have harticles : ["Folgen", "C", "Folgen"].map
        (article? (wikibooksClient.told wikibooks) {}) = [some folgen, some c, some folgen] := by
      simp only [List.map_cons, List.map_nil, onWikibooks_folgen.article?_eq,
        onWikibooks_c.article?_eq, folgen, c]
    obtain ⟨disk, hran⟩ := parse_separately ["Folgen", "C", "Folgen"] settingsOn_usedMachine
      ofSettings_defaults openFor_usedMachine stores_usedMachine hhistory
      (keysAgree_of_forall_eq (told_of_mem_loadCalls hthere)) fun title htitle =>
        (hthere title htitle).ends
    rw [harticles, hnothing, String.empty_append, printedOf_some, printedOf_some, printedOf_some,
      printedOf_nil, String.append_empty] at hran
    exact ⟨disk, hran⟩
  · have hhistory : ∀ path, usedService.file = some path → History "/home" wikibooks
        wikibooksClient (Path.landing usedMachine.disk.current path) [.getContent "Fehlt"]
          usedMachine := by
      rintro path ⟨⟩
      exact history_usedMachine
    have hcalls : ["Fehlt", "Fehlt"].flatMap (loadCalls (wikibooksClient.told wikibooks) {}) =
        [.getContent "Fehlt", .getContent "Fehlt"] := by
      simp only [List.flatMap_cons, loadCalls_fehlt]
      rfl
    have hkeys : KeysAgree Digest.ofText (wikibooksClient.told wikibooks)
        ([.getContent "Fehlt"] ++
          ["Fehlt", "Fehlt"].flatMap (loadCalls (wikibooksClient.told wikibooks) {})) := by
      have hsame : ∀ call ∈ [Call.getContent "Fehlt", .getContent "Fehlt", .getContent "Fehlt"],
          wikibooksClient.told wikibooks call =
            wikibooksClient.told wikibooks (.getContent "Fehlt") := by
        simp
      rw [hcalls]
      exact keysAgree_of_forall_eq hsame
    have harticles : ["Fehlt", "Fehlt"].map (article? (wikibooksClient.told wikibooks) {}) =
        [none, none] := by
      simp only [List.map_cons, List.map_nil, article?_fehlt]
    have hends : ∀ title ∈ ["Fehlt", "Fehlt"], Ends (wikibooksClient.told wikibooks) {} title := by
      simp [ends_fehlt]
    obtain ⟨disk, hran⟩ := parse_separately ["Fehlt", "Fehlt"] settingsOn_usedMachine
      ofSettings_defaults openFor_usedMachine stores_usedMachine hhistory hkeys hends
    rw [harticles, hnothing, String.empty_append, printedOf_none, printedOf_none,
      printedOf_nil] at hran
    exact ⟨disk, hran⟩

end ArticleTree.Command
