import ArticleTree.Proofs.Session.FailFast
import ArticleTree.Proofs.Stages.Judgements

/-! # Conversions that end with the first failure

Markup in macro calls and in captions is rendered and parsed wherever it is met, so failures
of the service come up at any depth. All of them end the conversion at once, as they are. Of
its own a conversion fails for markup and for the calls kept in it; that a caption has not the
right shape is no failure of the conversion, and the only thing that it goes on from.
-/

namespace ArticleTree

open Session hiding bind

/-- The markup is not balanced, or the call kept beside a macro's expansion cannot be read. -/
def Failure.isMalformed : Failure → Prop
  | .markup _ => True
  | .metadata _ => True
  | _ => False

theorem Failure.isStructural_of_isMalformed {reason : Failure} (h : reason.isMalformed) :
    reason.isStructural = false := by
  cases reason with
  | markup | metadata => rfl
  | _ => cases h

/-- The call asks for the rendering of markup as a part of the article. -/
def Call.Renders (title : String) (call : Call) : Prop :=
  ∃ text, call = .renderHtml title text

variable {asks : Call → Prop} {own : Failure → Prop} {ctx : Context}

/-! ## Walks and chains -/

/-- A walk fails fast if its verdicts do. -/
theorem Pass.failsFast_walk {pass : Pass} (hjudge : ∀ n, (pass.judge ctx n).FailsFast asks own)
    (nodes : Forest) : (pass.walk ctx nodes).FailsFast asks own := by
  induction nodes using Node.weightAll_induction with
  | step nodes ih =>
  cases nodes with
  | nil =>
      rw [Pass.walk_nil]
      exact .done []
  | cons n rest =>
      have hnode : (pass.node ctx n).FailsFast asks own := by
        rw [Pass.node_eq]
        refine (hjudge n).bind ?_
        intro verdict
        cases verdict with
        | into other smaller =>
            have hsequences : (other.sequences.mapM (pass.walk ctx)).FailsFast asks own := by
              refine FailsFast.mapM fun s hs => ih s ?_
              have := Node.weightAll_le_innerWeight hs
              simp only [Node.weightAll]
              omega
            exact (hsequences.bind fun _ => .done _).map some
        | done other => exact .done _
        | drop => exact .done _
      rw [Pass.walk_cons]
      exact hnode.bind fun _ => (ih rest (Node.weightAll_lt_cons n rest)).bind fun _ => .done _

theorem Pass.failsFast_replacing {name : String} {guard : Node → Bool} {f : Node → Session Node}
    (hf : ∀ n, (f n).FailsFast asks own) (nodes : Forest) :
    ((replacing name guard f).walk ctx nodes).FailsFast asks own := by
  refine failsFast_walk ?_ nodes
  intro n
  rw [replacing_judge]
  split
  · exact (hf n).bind fun _ => .done _
  · exact .done _

/-! ## Parsing markup -/

namespace Markup

variable {parse : String → Session Forest}

theorem exists_markup_of_parse {html : String} {reason : Failure}
    (h : Html.parse html = .error reason) : ∃ message, reason = .markup message := by
  unfold Html.parse Html.ofTokens at h
  split at h
  · cases h
  · cases h
    exact ⟨_, rfl⟩

theorem failsFast_readParams (hparse : ∀ text, (parse text).FailsFast asks own) (name : String)
    (texts : List (String × String)) : (readParams parse name texts).FailsFast asks own := by
  induction texts with
  | nil => exact .done []
  | cons entry texts ih =>
      obtain ⟨key, text⟩ := entry
      rw [readParams]
      split
      · exact ((hparse text).map _).bind fun _ => ih.bind fun _ => .done _
      · exact ih.bind fun _ => .done _

theorem failsFast_recoverCall (hparse : ∀ text, (parse text).FailsFast asks own)
    (hown : ∀ reason, reason.isMalformed → own reason) (n : Node) :
    (recoverCall parse n).FailsFast asks own := by
  unfold recoverCall
  split
  · exact .fail (hown _ trivial)
  · exact (failsFast_readParams hparse _ _).bind fun _ => .done _

/-- A caption is refused for the shape of its nodes. -/
theorem isStructural_of_captionOf {content : Forest} {reason : Failure}
    (h : captionOf content = .error reason) : reason.isStructural = true := by
  unfold captionOf at h
  split at h
  · rename_i node
    unfold Guard.ensure at h
    cases hguard : Guard.failure? [.element "p"] node with
    | none => simp [hguard, bind, Except.bind, pure, Except.pure] at h
    | some message =>
        simp only [hguard, bind, Except.bind, Except.error.injEq] at h
        rw [← h]
        rfl
  · cases h
    rfl

/-- Whatever is wrong with the shape of a caption stays in the gallery. -/
theorem failsFast_galleryItem (hparse : ∀ text, (parse text).FailsFast asks own)
    (line : String) : (galleryItem parse line).FailsFast asks own := by
  unfold galleryItem
  split
  · exact .done _
  · rename_i caption _
    have hcaption : (inlineContent parse (.ofList caption)).FailsFast asks
        (fun reason => own reason ∨ reason.isStructural = true) := by
      refine ((hparse _).mono (fun _ h => h) fun _ h => .inl h).bind ?_
      intro content
      exact FailsFast.ofExcept fun reason h => .inr (isStructural_of_captionOf h)
    refine (hcaption.bind fun _ => .done _).recover ?_ ?_
    · intro reason hreason
      simp [captionError, hreason]
    · rintro reason (hreason | hreason) hmend
      · exact hreason
      · simp [captionError, hreason] at hmend

theorem failsFast_recoverGallery (hparse : ∀ text, (parse text).FailsFast asks own) (n : Node) :
    (recoverGallery parse n).FailsFast asks own := by
  unfold recoverGallery
  split
  · exact .done _
  · rename_i source _
    have hitems : (source.lines.mapM (galleryItem parse)).FailsFast asks own :=
      FailsFast.mapM fun line _ => failsFast_galleryItem hparse line
    exact hitems.bind fun _ => .done _

theorem failsFast_parseRenderedWith (hparse : ∀ text, (parse text).FailsFast asks own)
    (hown : ∀ reason, reason.isMalformed → own reason) (html : String) :
    (parseRenderedWith parse ctx html).FailsFast asks own := by
  have hhtml : (Session.ofExcept (Html.parse html)).FailsFast asks own := by
    refine FailsFast.ofExcept fun reason h => hown reason ?_
    obtain ⟨message, rfl⟩ := exists_markup_of_parse h
    trivial
  refine hhtml.bind ?_
  intro nodes
  refine (Pass.failsFast_replacing (failsFast_recoverCall hparse hown) nodes).bind ?_
  intro calls
  exact (Pass.failsFast_replacing (failsFast_recoverGallery hparse) calls).bind fun _ => .done _

theorem failsFast_parseWithin (depth : Nat) (text : String) :
    (parseWithin ctx depth text).FailsFast (Call.Renders ctx.title) Failure.isMalformed := by
  induction depth generalizing text with
  | zero => exact .tooDeep
  | succ depth ih =>
      refine (FailsFast.request ⟨text, rfl⟩).bind ?_
      exact failsFast_parseRenderedWith (fun text => ih text) fun _ h => h

theorem failsFast_parseContent (text : String) :
    (parseContent ctx text).FailsFast (Call.Renders ctx.title) Failure.isMalformed :=
  failsFast_parseWithin ctx.depth text

theorem failsFast_parseRendered (html : String) :
    (parseRendered ctx html).FailsFast (Call.Renders ctx.title) Failure.isMalformed :=
  failsFast_parseRenderedWith failsFast_parseContent (fun _ h => h) html

end Markup

/-! ## Converting articles -/

namespace Article

variable {options : Options}

/-- The stages of the article chain ask for nothing and never fail, and what they make of a
    forest depends neither on the article nor on the service. -/
theorem exists_observe_convert (options : Options) (nodes : Forest) :
    ∃ out, ∀ {σ : Type} (service : Call → StateM σ Answer) (state : σ) (ctx : Context),
      (convert options ctx nodes).observe service state = ⟨.ok out, [], state⟩ := by
  refine ⟨Stages.conversion options nodes, ?_⟩
  intro σ service state ctx
  rw [Stages.convert_eq, observe_done]

/-- The markup of an article, parsed and as it was before the stages. -/
def fetch (ctx : Context) : Session Forest := do
  Markup.parseContent ctx (← .getContent ctx.title)

/-- The options matter only once everything was asked for. -/
theorem load_eq : load options ctx =
    (fun nodes => ⟨ctx.title, Stages.conversion options nodes⟩) <$> fetch ctx := by
  simp only [load, parse, fetch, Stages.convert_eq, map_eq_pure_bind, bind_assoc]
  rfl

theorem failsFast_convert (nodes : Forest) : (convert options ctx nodes).FailsFast asks own := by
  rw [Stages.convert_eq]
  exact .done _

theorem failsFast_parse (text : String) :
    (parse options ctx text).FailsFast (Call.Renders ctx.title) Failure.isMalformed :=
  (Markup.failsFast_parseContent text).bind failsFast_convert

theorem failsFast_parseRendered (html : String) :
    (parseRendered options ctx html).FailsFast (Call.Renders ctx.title) Failure.isMalformed :=
  (Markup.failsFast_parseRendered html).bind failsFast_convert

theorem failsFast_load :
    (load options ctx).FailsFast
      (fun call => call = .getContent ctx.title ∨ call.Renders ctx.title) Failure.isMalformed := by
  refine (FailsFast.request (.inl rfl)).bind ?_
  intro text
  refine ((failsFast_parse text).mono (fun _ => .inr) fun _ h => h).bind ?_
  exact fun _ => .done _

/-- The source is asked for once, before all else. -/
theorem calls_load {σ : Type} {service : Call → StateM σ Answer}
    (hservice : NeverStructural service) (state : σ) :
    ∃ later, ((load options ctx).observe service state).calls = .getContent ctx.title :: later ∧
      ∀ call ∈ later, call.Renders ctx.title := by
  have hload : load options ctx = request (.getContent ctx.title) >>= fun text =>
      parse options ctx text >>= fun content => .done ⟨ctx.title, content⟩ := rfl
  rw [hload]
  cases hanswer : (service (.getContent ctx.title) state).1 with
  | error reason =>
      rw [observe_request_of_error hanswer]
      exact ⟨[], rfl, by simp⟩
  | ok text =>
      have hparse : (parse options ctx text >>= fun content => .done ⟨ctx.title, content⟩ :
          Session Article).FailsFast (Call.Renders ctx.title) Failure.isMalformed :=
        (failsFast_parse text).bind fun _ => .done _
      rw [observe_request_of_ok hanswer]
      exact ⟨_, rfl, List.forall_mem_map.2 (hparse.forall_mem_log hservice _)⟩

/-- Whatever the service is that articles are converted with, as long as it does not complain
    about the shape of nodes: the source is asked for first and once, if at all, and all that is
    asked for besides is markup as a part of the article. A call that fails at any depth is the
    last one, and its failure is what the conversion ends with. Otherwise it can only fail for
    malformed markup or metadata. -/
theorem failedFast_observe {σ : Type} (service : Call → StateM σ Answer)
    (hservice : NeverStructural service) (state : σ) (options : Options) (ctx : Context)
    (text : String) :
    let parsed := (parse options ctx text).observe service state
    let rendered := (parseRendered options ctx text).observe service state
    let loaded := (load options ctx).observe service state
    ((∀ call ∈ parsed.calls, call.Renders ctx.title) ∧
        (∀ call ∈ rendered.calls, call.Renders ctx.title) ∧
        ∃ later, loaded.calls = .getContent ctx.title :: later ∧
          ∀ call ∈ later, call.Renders ctx.title) ∧
      parsed.FailedFast Failure.isMalformed ∧ rendered.FailedFast Failure.isMalformed ∧
        loaded.FailedFast Failure.isMalformed := by
  have hown : ∀ reason, Failure.isMalformed reason → reason.isStructural = false :=
    fun _ => Failure.isStructural_of_isMalformed
  refine ⟨⟨?_, ?_, calls_load hservice state⟩, ?_, ?_, ?_⟩
  · exact List.forall_mem_map.2 ((failsFast_parse text).forall_mem_log hservice state)
  · exact List.forall_mem_map.2 ((failsFast_parseRendered text).forall_mem_log hservice state)
  · exact (failsFast_parse text).failedFast hown hservice state
  · exact (failsFast_parseRendered text).failedFast hown hservice state
  · exact failsFast_load.failedFast hown hservice state

/-- An article that is a macro call with a gallery in it, and a service that cannot render the
    second caption. It counts what it renders. -/
def brokenCaption : Call → StateM Nat Answer
  | .getContent _ => return .ok "article"
  | .renderHtml _ "second" => return .error (.network "render failed")
  | .renderHtml _ "article" => do
      modify (· + 1)
      return .ok ("<p typeof=\"mw:Transclusion\" data-mw=\x27\x7b\"parts\":[\x7b" ++
        "\"template\":\x7b\"target\":\x7b\"wt\":\"Warnung\"\x7d," ++
        "\"params\":\x7b\"1\":\x7b\"wt\":\"gallery\"\x7d\x7d\x7d\x7d]\x7d\x27>x</p>")
  | .renderHtml _ "gallery" => do
      modify (· + 1)
      return .ok ("<ul typeof=\"mw:Extension/gallery\" data-mw=\x27\x7b\"body\":\x7b" ++
        "\"extsrc\":\"A.jpg|first\\nB.jpg|second\\nC.jpg|third\"\x7d\x7d\x27></ul>")
  | .renderHtml _ text => do
      modify (· + 1)
      return .ok ("<p>" ++ text ++ "</p>")

theorem neverStructural_brokenCaption : NeverStructural brokenCaption := by
  intro call state reason hanswer
  unfold brokenCaption at hanswer
  split at hanswer <;> cases hanswer
  rfl

theorem failedFast_observe_brokenCaption :
    NeverStructural brokenCaption ∧
      let run := (load {} ⟨"Title", 5⟩).observe brokenCaption 0
      run.calls = [.getContent "Title", .renderHtml "Title" "article",
          .renderHtml "Title" "gallery", .renderHtml "Title" "first",
          .renderHtml "Title" "second"] ∧
        run.outcome = .failed (.network "render failed") := by
  refine ⟨neverStructural_brokenCaption, ?_⟩
  intro run
  have hlog : run.log = [.getContent "Title", .renderHtml "Title" "article",
      .renderHtml "Title" "gallery", .renderHtml "Title" "first",
      .renderHtml "Title" "second"].map fun call => (call, (brokenCaption call 0).1) := by
    decide +kernel
  have hrun := (failedFast_observe brokenCaption neverStructural_brokenCaption 0 {} ⟨"Title", 5⟩
    "").2.2.2
  refine ⟨?_, (hrun.last _ _ _ [] (hlog.trans (List.dropLast_concat_getLast ?_).symm)).2⟩
  · rw [Run.calls, hlog]
    rfl
  · simp

end Article

end ArticleTree
