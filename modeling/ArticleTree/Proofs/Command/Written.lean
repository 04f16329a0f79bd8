import ArticleTree.Proofs.Command.Batch
import ArticleTree.Proofs.Command.Overwriting

/-! # Articles in files

Each article goes to the file that is named by the words of its title. Articles whose titles
have the same words go to the same file, and then the last of them is what is found there. The
command ends as if nothing was wrong.
-/

namespace ArticleTree.Command

open Cache DiskMachine

variable {home : String} {server : Http.Request → Option Http.Response} {options : Options}
  {service : Service} {directory : String} {place : List String} {disk : Disk}
  {articles : List Article} {titles : List String}

/-! ## What comes out of the conversions -/

/-- What comes out of conversions that share a cache, one after the other. -/
def outcomes (server : Http.Request → Option Http.Response) (options : Options) :
    (titles : List String) → Service → List (Outcome Article)
  | [], _ => []
  | title :: titles, service =>
      let (outcome, after) := service.converted server (Article.load options { title })
      outcome :: outcomes server options titles after

theorem returns_of_converted {α : Type} {s : Session α} {a : α}
    (h : (service.converted server s).1 = .ok a) : s.Returns a := by
  have hrun : (s.runM (Memo.service Digest.ofText (service.client.told server))
      service.memo).1 = .ok a := h
  exact Session.returns_of_runM hrun

/-- The article that a conversion ends with has the title that was asked for. -/
theorem title_of_returns {title : String} {article : Article}
    (h : (Article.load options { title }).Returns article) : article.title = title := by
  rw [Article.load_eq, Session.returns_map] at h
  obtain ⟨_, _, rfl⟩ := h
  rfl

theorem titles_of_outcomes (hall : outcomes server options titles service = articles.map .ok) :
    articles.map Article.title = titles := by
  induction titles generalizing service articles with
  | nil =>
      obtain rfl : articles = [] := by simpa [outcomes] using hall.symm
      rfl
  | cons title titles ih =>
      cases articles with
      | nil => cases hall
      | cons article articles =>
          rw [outcomes, List.map_cons, List.cons.injEq] at hall
          rw [List.map_cons, ih hall.2, title_of_returns (returns_of_converted hall.1)]

/-- Behind a cache that only holds what was answered, each conversion ends as it does alone. -/
theorem outcomes_of_articles {client : Wiki.Client} {asked : List Call}
    (h : Trusted client (client.told server) asked service)
    (hkeys : KeysAgree Digest.ofText (client.told server) asked)
    (hcalls : titles.flatMap (loadCalls (client.told server) options) ⊆ asked)
    (harticles : titles.map (article? (client.told server) options) = articles.map some) :
    outcomes server options titles service = articles.map .ok := by
  induction titles generalizing service articles with
  | nil =>
      obtain rfl : articles = [] := by simpa using harticles.symm
      rfl
  | cons title titles ih =>
      cases articles with
      | nil => cases harticles
      | cons article articles =>
          rw [List.map_cons, List.map_cons, List.cons.injEq] at harticles
          rw [List.flatMap_cons, List.append_subset] at hcalls
          obtain ⟨houtcome, hafter⟩ := h.converted hkeys hcalls.1
          rw [outcomes, List.map_cons, ← ih hafter hcalls.2 harticles.2,
            ← article?_eq_some.1 harticles.1, ← houtcome]

/-! ## Writing articles -/

/-- A directory that articles can be written to, while the cache is kept elsewhere. -/
structure Receives (service : Service) (disk : Disk) (directory : String) (place : List String) :
    Prop where
  leads : disk.LeadsTo directory place
  free : ∀ name, disk.entry? (place ++ [name]) ≠ some .directory
  stores : service.Stores disk
  apart : ∀ path, service.file = some path →
    ∀ name, Path.landing disk.current path ≠ place ++ [name]

theorem Receives.put (h : Receives service disk directory place) {other : List String}
    (hother : disk.entry? other ≠ some .directory) (content : ByteArray) :
    Receives service (disk.put other (.file content)) directory place where
  leads := h.leads.put hother content
  free := by
    intro name
    by_cases hsame : place ++ [name] = other
    · rw [hsame, Disk.entry?_put_self _ (Disk.ne_nil_of_ne_directory hother)]
      simp
    · rw [Disk.entry?_put_of_ne _ hsame]
      exact h.free name
  stores := h.stores.put hother
  apart := h.apart

/-- Keeping the cache changes nothing in the directory. -/
theorem Receives.saved (h : Receives service disk directory place) {after : Disk}
    (hsaved : service.Saved disk after) :
    Receives service after directory place ∧
      ∀ name, after.entry? (place ++ [name]) = disk.entry? (place ++ [name]) := by
  rcases hsaved with rfl | ⟨path, written, content, hfile, htakes, rfl⟩
  · exact ⟨h, fun _ => rfl⟩
  · refine ⟨h.put htakes.free content, fun name => ?_⟩
    rw [Disk.entry?_put_of_ne]
    rw [Disk.landing_of_place htakes.leads]
    exact (h.apart path hfile name).symm

/-- The file that an article goes to can be written. -/
theorem Receives.takes (h : Receives service disk directory place) {title : String}
    (hfits : Fits title) :
    disk.Takes (Path.join directory (fileName title)) (place ++ [fileName title]) :=
  h.leads.takes (isName_fileName title) hfits (h.free _)

variable (home server) in
theorem perform_deliver_of_fits (state : DiskMachine)
    (h : Receives service state.disk directory place) {article : Article}
    (hfits : Fits article.title) :
    perform (deliver (machine home server) (some directory) article) state =
      (.ok (), ⟨state.disk.put (place ++ [fileName article.title])
        (.file article.render.toUTF8), state.printed⟩) := by
  have hwrite := (h.takes hfits).write article.render.toUTF8
  rw [deliver]
  exact (perform_writeText _ _ _).trans (by rw [← fileName, hwrite])

variable (home server) in
theorem perform_deliver_of_not_fits (state : DiskMachine)
    (h : Receives service state.disk directory place) {article : Article}
    (hfits : ¬ Fits article.title) :
    perform (deliver (machine home server) (some directory) article) state =
      (.error (.io (Path.join directory (fileName article.title)) Disk.nameTooLong), state) := by
  have hwrite := h.leads.write_eq_error (isName_fileName article.title) (not_le.1 hfits)
    article.render.toUTF8
  rw [deliver]
  exact (perform_writeText _ _ _).trans (by rw [← fileName, hwrite])

variable (home) in
/-- What is found in the files of a directory that articles were written to. An article whose
    file cannot be written ends the command. -/
theorem perform_convertAll_into (state : DiskMachine)
    (h : Receives service state.disk directory place)
    (hall : outcomes server options titles service = articles.map .ok) :
    ∃ result after, perform (convertAll (machine home server) options (some directory) titles
        service) state = (result, after) ∧
      ((∀ article ∈ articles, Fits article.title) → result = .ok (some 0)) ∧
      ∀ name, after.disk.entry? (place ++ [name]) =
        filed name (articles.takeWhile fun a => Fits a.title)
          (state.disk.entry? (place ++ [name])) := by
  induction titles generalizing service state articles with
  | nil =>
      obtain rfl : articles = [] := by simpa [outcomes] using hall.symm
      exact ⟨.ok (some 0), state, rfl, fun _ => rfl, fun _ => rfl⟩
  | cons title titles ih =>
      cases articles with
      | nil => cases hall
      | cons article articles =>
          rw [outcomes, List.map_cons, List.cons.injEq] at hall
          obtain ⟨houtcome, hrest⟩ := hall
          -- First the cache is kept, which leaves the directory as it is; then the article goes
          -- to its file, and the rest of the articles find that file in the directory.
          obtain ⟨disk, hsaved, hconvert⟩ :=
            Service.exists_convert home server (Article.load options { title }) h.stores
          obtain ⟨hdisk, hkept⟩ := h.saved hsaved
          have hafter : Receives (service.converted server (Article.load options { title })).2 disk
              directory place := ⟨hdisk.leads, hdisk.free, hdisk.stores, hdisk.apart⟩
          generalize service.converted server (Article.load options { title }) = converted at *
          obtain ⟨outcome, later⟩ := converted
          obtain rfl : outcome = .ok article := houtcome
          by_cases hfits : Fits article.title
          · have hdeliver :=
              perform_deliver_of_fits home server { state with disk } hdisk hfits
            obtain ⟨result, last, hrun, hresult, hfiled⟩ :=
              ih ⟨disk.put (place ++ [fileName article.title]) (.file article.render.toUTF8),
                state.printed⟩ (hafter.put (hafter.free _) _) hrest
            refine ⟨result, last, ?_, ?_, ?_⟩
            · exact (perform_convertAll_of_ok hconvert hdeliver).trans hrun
            · intro hfit
              exact hresult (List.forall_mem_cons.1 hfit).2
            · intro name
              rw [hfiled]
              dsimp only
              rw [Disk.entry?_put_name, hkept, List.takeWhile_cons_of_pos (by simpa), filed]
          · have hdeliver :=
              perform_deliver_of_not_fits home server { state with disk } hdisk hfits
            refine ⟨_, _, perform_convertAll_of_error hconvert hdeliver, ?_, ?_⟩
            · intro hfit
              exact absurd (List.forall_mem_cons.1 hfit).1 hfits
            · intro name
              rw [List.takeWhile_cons_of_neg (by simpa), filed, hkept]

/-! ## The command -/

section

variable {settings : Settings} {useCache : Bool} {state opened : DiskMachine} {made : Disk}

/-- Articles can be written to a directory that has nothing in it. -/
theorem receives_of_empty
    (hopen : perform (Service.openFor (machine home server) settings useCache) state =
      (.ok service, opened))
    (hstores : service.Stores opened.disk) (hmake : opened.disk.MakesEmpty directory place made) :
    Receives service made directory place where
  leads := hmake.leadsTo
  free name := by
    rw [hmake.empty name]
    simp
  stores := by
    intro path hfile given
    obtain ⟨content, hthere⟩ := Service.exists_file_of_openFor hopen hfile
    obtain ⟨_, hwrite⟩ := hstores path hfile given
    obtain ⟨found, htakes, _⟩ := Disk.exists_takes hwrite
    rw [← Disk.landing_of_place htakes.leads] at hthere
    exact ⟨_, (htakes.makeOnWay hthere hmake.makes).write given⟩
  apart := by
    intro path hfile name hsame
    obtain ⟨content, hthere⟩ := Service.exists_file_of_openFor hopen hfile
    have hkept := (Disk.file_makeOnWay_iff hmake.makes).2 hthere
    rw [← Disk.current_of_makeOnWay hmake.makes, hsame, hmake.empty name] at hkept
    cases hkept

/-- What is found in a directory, which had nothing in it, after articles were written to it. -/
theorem exists_parse_into
    (hsettings : settingsOn home state.disk = .ok settings)
    (hopen : perform (Service.openFor (machine home server) settings useCache) state =
      (.ok service, opened))
    (hstores : service.Stores opened.disk) (hmake : opened.disk.MakesEmpty directory place made)
    (hall : outcomes server settings.pipeline titles service = articles.map .ok) :
    ∃ result after, perform (run (machine home server) (.parse titles (some directory) useCache))
        state = (result, after) ∧
      ((∀ article ∈ articles, Fits article.title) → result = .ok .success) ∧
      ∀ name, after.disk.entry? (place ++ [name]) =
        filed name (articles.takeWhile fun a => Fits a.title) none := by
  have hload : perform (Settings.load (machine home server)) state = (.ok settings, state) := by
    rw [perform_load, hsettings]
  have hneed : perform ((machine home server).needDirectory directory) opened =
      (.ok (), ⟨made, opened.printed⟩) := by
    rw [perform_needDirectory, hmake.makes]
  obtain ⟨result, after, hrun, hresult, hfiled⟩ :=
    perform_convertAll_into home ⟨made, opened.printed⟩
      (receives_of_empty hopen hstores hmake) hall
  simp only [hmake.empty] at hfiled
  rw [run, runParse, perform_bind_of_ok hload, perform_bind_of_ok hopen]
  cases result with
  | ok counted =>
      refine ⟨.ok (.ofFailed counted), after, ?_, ?_, hfiled⟩
      · exact (perform_bind_of_ok hneed).trans (perform_bind_of_ok hrun)
      · intro hfits
        obtain rfl : counted = some 0 := Except.ok.inj (hresult hfits)
        rfl
  | error reason =>
      refine ⟨.error reason, after, ?_, ?_, hfiled⟩
      · exact (perform_bind_of_ok hneed).trans (perform_bind_of_error hrun)
      · intro hfits
        cases hresult hfits

/-- Articles with different titles that are written to a directory with nothing in it are all
    found there if and only if no two titles have the same words, and each file name is short
    enough. Should words be shared, the command still ends as a success. -/
theorem parse_into_directory
    (hsettings : settingsOn home state.disk = .ok settings)
    (hopen : perform (Service.openFor (machine home server) settings useCache) state =
      (.ok service, opened))
    (hstores : service.Stores opened.disk) (hmake : opened.disk.MakesEmpty directory place made)
    (hall : outcomes server settings.pipeline titles service = articles.map .ok)
    (hdistinct : titles.Nodup) :
    ∃ result after, perform (run (machine home server) (.parse titles (some directory) useCache))
        state = (result, after) ∧
      ((∀ title ∈ titles, Fits title) → result = .ok .success) ∧
      ((∀ article ∈ articles, ∃ name,
          after.disk.entry? (place ++ [name]) = some (.file article.render.toUTF8)) ↔
        (titles.map titleWords).Nodup ∧ ∀ title ∈ titles, Fits title) := by
  have htitles : articles.map Article.title = titles := titles_of_outcomes hall
  obtain ⟨result, after, hrun, hresult, hfiled⟩ :=
    exists_parse_into hsettings hopen hstores hmake hall
  refine ⟨result, after, hrun, ?_, ?_⟩
  · intro hfits
    rw [← htitles, List.forall_mem_map] at hfits
    exact hresult hfits
  · simp only [hfiled]
    rw [forall_filed_iff (htitles ▸ hdistinct), htitles]

/-- Articles that the wiki has, as they come out behind an empty cache. -/
theorem outcomes_wikibooks {path : Option String} (h : ∀ title ∈ titles, OnWikibooks title) :
    outcomes wikibooks {} titles ⟨wikibooksClient, .fresh .empty, path⟩ =
      (titles.map fun title => ⟨title, [.text "text"]⟩).map .ok := by
  refine outcomes_of_articles ⟨rfl, Store.truthful_empty⟩
    (keysAgree_of_forall_eq (told_of_mem_loadCalls h)) (List.Subset.refl _) ?_
  rw [List.map_map]
  exact List.map_congr_left fun title htitle => (h title htitle).article?_eq

theorem parse_into_directory_twoTitles :
    ∃ after, perform (run (machine "/home" wikibooks)
        (.parse ["Folgen", "C"] (some "o") true)) usedMachine = (.ok .success, after) ∧
      ∀ article ∈ ([⟨"Folgen", [.text "text"]⟩, ⟨"C", [.text "text"]⟩] : List Article), ∃ name,
        after.disk.entry? (["home", "o"] ++ [name]) = some (.file article.render.toUTF8) := by
  have hmake : usedMachine.disk.MakesEmpty "o" ["home", "o"]
      (usedMachine.disk.put ["home", "o"] .directory) := by
    refine ⟨by decide +kernel, by decide +kernel, by decide +kernel, fun name => ?_⟩
    simp [Disk.entry?, Disk.put, usedMachine, List.lookup_cons]
  have hthere : ∀ title ∈ ["Folgen", "C"], OnWikibooks title := by
    simp [onWikibooks_folgen, onWikibooks_c]
  have hdistinct : ["Folgen", "C"].Nodup := by decide
  have hwords : (["Folgen", "C"].map titleWords).Nodup := by decide +kernel
  have hfits : ∀ title ∈ ["Folgen", "C"], Fits title := by decide +kernel
  obtain ⟨result, after, hrun, hresult, hfound⟩ :=
    parse_into_directory settingsOn_usedMachine openFor_usedMachine stores_usedMachine hmake
      (outcomes_wikibooks hthere) hdistinct
  rw [hresult hfits] at hrun
  exact ⟨after, hrun, hfound.2 ⟨hwords, hfits⟩⟩

/-- Titles that only differ in what comes after their words: the first article is lost, and the
    command does not say so. -/
theorem parse_into_directory_sharedWords :
    let c : Article := ⟨"C", [.text "text"]⟩
    let d : Article := ⟨"C++", [.text "text"]⟩
    ["C", "C++"].map (article? (wikibooksClient.told wikibooks) {}) = [some c, some d] ∧
      newMachine.disk.entry? ["home", "o"] = none ∧
      ∃ after, perform (run (machine "/home" wikibooks)
          (.parse ["C", "C++"] (some "o") false)) newMachine = (.ok .success, after) ∧
        ∀ name, after.disk.entry? (["home", "o"] ++ [name]) ≠ some (.file c.render.toUTF8) := by
  intro c d
  have hsettings : settingsOn "/home" newMachine.disk = .ok {} := by
    decide +kernel
  have hopen : perform (Service.openFor (machine "/home" wikibooks) {} false) newMachine =
      (.ok ⟨wikibooksClient, .fresh .empty, none⟩, newMachine) := by
    decide +kernel
  have hstores : Service.Stores ⟨wikibooksClient, .fresh .empty, none⟩ newMachine.disk := by
    rintro path ⟨⟩
  have hmake : newMachine.disk.MakesEmpty "o" ["home", "o"]
      (newMachine.disk.put ["home", "o"] .directory) := by
    refine ⟨by decide +kernel, by decide +kernel, by decide +kernel, fun name => ?_⟩
    simp [Disk.entry?, Disk.put, newMachine, List.lookup_cons]
  have hother : OnWikibooks "C++" := ⟨by decide +kernel, by decide +kernel⟩
  have hthere : ∀ title ∈ ["C", "C++"], OnWikibooks title := by
    simp [onWikibooks_c, hother]
  have hfits : ∀ article ∈ [c, d], Fits article.title := by decide +kernel
  have hwords : titleWords "C++" = titleWords "C" := by decide +kernel
  have hdiffer : ∀ article ∈ [d], article.title ≠ c.title := by decide
  obtain ⟨result, after, hrun, hresult, hfiled⟩ :=
    exists_parse_into hsettings hopen hstores hmake (outcomes_wikibooks hthere)
  rw [hresult hfits] at hrun
  refine ⟨?_, by decide +kernel, after, hrun, fun name => ?_⟩
  · simp only [List.map_cons, List.map_nil, onWikibooks_c.article?_eq, hother.article?_eq, c, d]
  · have hall : ([c, d].takeWhile fun article => Fits article.title) = [c, d] :=
      List.takeWhile_eq_self_iff.2 (by simpa using hfits)
    rw [hfiled]
    change filed name ([c, d].takeWhile fun article => Fits article.title) none ≠ _
    rw [hall]
    exact filed_ne_of_overwritten ⟨d, List.mem_singleton_self d, hwords⟩ hdiffer name

end

end ArticleTree.Command
