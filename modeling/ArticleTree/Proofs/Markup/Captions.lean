import ArticleTree.Proofs.Article.FailFast
import ArticleTree.Proofs.Markup.Recovered
import ArticleTree.Proofs.Text.Affix

/-! # Galleries whose captions are rendered

A gallery that is put back asks for one rendering after the other, one for each line with a
caption. A rendering that is balanced stays in the gallery, as an item or as an error. The first
that is not balanced ends the conversion, although it is a problem of the gallery.
-/

namespace ArticleTree

variable {σ α β : Type}

/-! ## Runs that end with a rendering -/

/-- The answer is HTML whose tags are balanced. -/
def Balanced (exchange : Call × Answer) : Prop :=
  ∃ html nodes, exchange.2 = .ok html ∧ Html.parse html = .ok nodes

/-- The answer is HTML that is refused. -/
def Refused (exchange : Call × Answer) (message : String) : Prop :=
  ∃ html, exchange.2 = .ok html ∧ Html.parse html = .error (.markup message)

theorem Refused.not_balanced {exchange : Call × Answer} {message : String}
    (h : Refused exchange message) : ¬ Balanced exchange := by
  rintro ⟨html, nodes, hanswer, hparse⟩
  obtain ⟨html', hanswer', hparse'⟩ := h
  cases hanswer.symm.trans hanswer'
  cases hparse.symm.trans hparse'

/-- The run makes something, or ends with the first rendering that is not balanced. -/
inductive Run.Makes (made : Log → α → Prop) (run : Run σ α) : Prop where
  | ok {value : α} : run.outcome = .ok value → made run.log value →
      (∀ exchange ∈ run.log, Balanced exchange) → run.Makes made
  | refused {before : Log} {exchange : Call × Answer} {message : String} :
      run.outcome = .failed (.markup message) → run.log = before ++ [exchange] →
      (∀ exchange ∈ before, Balanced exchange) → Refused exchange message → run.Makes made

namespace Session

/-- So does every run of the session with the service. -/
def Makes (service : Call → StateM σ Answer) (made : Log → α → Prop) (s : Session α) : Prop :=
  ∀ state, (s.observe service state).Makes made

variable {service : Call → StateM σ Answer} {made : Log → α → Prop}

theorem makes_done {value : α} (h : made [] value) : (done value).Makes service made :=
  fun _ => .ok rfl h (by simp)

theorem Makes.bind {s : Session α} {k : α → Session β} {made' : Log → β → Prop}
    (hs : s.Makes service made)
    (hk : ∀ log value, made log value →
      (k value).Makes service fun later b => made' (log ++ later) b) :
    (s >>= k).Makes service made' := by
  intro state
  cases hs state with
  | ok houtcome hmade hbalanced =>
      rw [observe_bind_of_ok houtcome]
      cases hk _ _ hmade (s.observe service state).state with
      | ok hlater hmade' hbalanced' =>
          exact .ok hlater hmade' (List.forall_mem_append.2 ⟨hbalanced, hbalanced'⟩)
      | refused hlater hlog hbefore hrefused =>
          refine .refused hlater ?_ (List.forall_mem_append.2 ⟨hbalanced, hbefore⟩) hrefused
          exact (congrArg _ hlog).trans (List.append_assoc ..).symm
  | refused houtcome hlog hbefore hrefused =>
      rw [observe_bind, Run.andThen, houtcome]
      exact .refused rfl hlog hbefore hrefused

/-- What a list of things is made into, one after the other. -/
inductive OneByOne (made : α → Log → β → Prop) : List α → Log → List β → Prop where
  | nil : OneByOne made [] [] []
  | cons {a : α} {as : List α} {b : β} {bs : List β} {log later : Log} :
      made a log b → OneByOne made as later bs → OneByOne made (a :: as) (log ++ later) (b :: bs)

theorem makes_mapM {f : α → Session β} {made : α → Log → β → Prop}
    (h : ∀ a, (f a).Makes service (made a)) (as : List α) :
    (as.mapM f).Makes service (OneByOne made as) := by
  induction as with
  | nil => exact makes_done .nil
  | cons a as ih =>
      rw [List.mapM_cons]
      refine (h a).bind fun log b hb => ?_
      refine ih.bind fun later bs hbs => makes_done ?_
      rw [List.append_nil]
      exact .cons hb hbs

end Session

namespace Markup

open Session (Makes OneByOne makes_done makes_mapM)

/-! ## Renderings without macro calls and galleries -/

/-- There is nothing to put back in the place of the node. -/
def Unmarked (n : Node) : Prop :=
  isTransclusion n = false ∧ isGallery n = false

/-- The service renders whatever it is asked to, and nothing in it is to be put back. -/
def RendersPlainly (service : Call → StateM σ Answer) : Prop :=
  ∀ title text state, ∃ html, (service (.renderHtml title text) state).1 = .ok html ∧
    ∀ nodes, Html.parse html = .ok nodes → Everywhere Unmarked nodes

variable {service : Call → StateM σ Answer} {ctx : Context} {parse : String → Session Forest}

theorem parseRenderedWith_of_error {html : String} {reason : Failure}
    (h : Html.parse html = .error reason) :
    parseRenderedWith parse ctx html = .fail reason := by
  rw [parseRenderedWith, h]
  rfl

theorem parseRenderedWith_of_ok {html : String} {nodes : Forest} (h : Html.parse html = .ok nodes)
    (hunmarked : Everywhere Unmarked nodes) :
    parseRenderedWith parse ctx html = .done nodes := by
  have hcalls : (transclusions parse).walk ctx nodes = .done nodes :=
    Pass.replacing_of_not (hunmarked.mono fun _ h => h.1)
  have hgalleries : (galleries parse).walk ctx nodes = .done nodes :=
    Pass.replacing_of_not (hunmarked.mono fun _ h => h.2)
  rw [parseRenderedWith, h]
  simp only [Session.ofExcept, Session.done_bind, chain_run, hcalls, hgalleries]

/-! ## Captions -/

/-- What stands in a gallery for a line of its source, and what is asked for it. -/
inductive ItemOf (title line : String) : Log → Node → Prop where
  | noCaption : '|' ∉ line.toList → ItemOf title line [] (.error "Gallery item needs a caption")
  | item {name caption : List Char} {html : String} {attrs : Attributes} {children : Forest} :
      '|' ∉ name → line.toList = name ++ '|' :: caption →
      Html.parse html = .ok [.element "p" attrs children] →
      ItemOf title line [(.renderHtml title (.ofList caption), .ok html)]
        (.galleryItem (Text.trim (.ofList name)) children)
  | noParagraph {name caption : List Char} {html : String} {nodes : Forest} {reason : Failure} :
      '|' ∉ name → line.toList = name ++ '|' :: caption → Html.parse html = .ok nodes →
      captionOf nodes = .error reason →
      ItemOf title line [(.renderHtml title (.ofList caption), .ok html)]
        (.error ("Gallery caption must be inline content: " ++ reason.message))

/-- What stands in the place of a gallery, and what is asked for it. -/
inductive GalleryOf (title : String) (n : Node) : Log → Node → Prop where
  | malformed : readGallery? (n.attr? "data-mw") = none →
      GalleryOf title n [] (.error "Gallery metadata is malformed")
  | read {source : GallerySource} {log : Log} {items : List Node} :
      readGallery? (n.attr? "data-mw") = some source →
      OneByOne (ItemOf title) source.lines log items →
      GalleryOf title n log (.gallery (source.size "widths") (source.size "heights") items)

theorem exists_parseContent (hdepth : 0 < ctx.depth) :
    ∃ parse, ∀ text, parseContent ctx text =
      Session.request (.renderHtml ctx.title text) >>= parseRenderedWith parse ctx := by
  obtain ⟨title, depth⟩ := ctx
  cases depth with
  | zero => exact absurd hdepth (Nat.lt_irrefl 0)
  | succ depth => exact ⟨parseWithin ⟨title, depth + 1⟩ depth, fun _ => rfl⟩

theorem makes_galleryItem (hservice : RendersPlainly service) (hdepth : 0 < ctx.depth)
    (line : String) :
    (galleryItem (parseContent ctx) line).Makes service (ItemOf ctx.title line) := by
  unfold galleryItem
  cases hcut : Text.cutAt? '|' line.toList with
  | none => exact makes_done (.noCaption (Text.cutAt?_eq_none.1 hcut))
  | some parts =>
      intro state
      obtain ⟨name, caption⟩ := parts
      obtain ⟨hname, hline⟩ := Text.cutAt?_eq_some hcut
      obtain ⟨parse, hparse⟩ := exists_parseContent hdepth
      obtain ⟨html, hanswer, hunmarked⟩ := hservice ctx.title (.ofList caption) state
      simp only [inlineContent, hparse, bind_assoc]
      rw [Session.observe_recover_request_of_ok hanswer]
      cases hhtml : Html.parse html with
      | error reason =>
          obtain ⟨message, rfl⟩ := exists_markup_of_parse hhtml
          rw [parseRenderedWith_of_error hhtml]
          exact .refused rfl (List.nil_append _).symm (by simp) ⟨html, rfl, hhtml⟩
      | ok nodes =>
          have hbalanced : ∀ exchange ∈ [(Call.renderHtml ctx.title (.ofList caption),
              (.ok html : Answer))], Balanced exchange :=
            List.forall_mem_singleton.2 ⟨html, nodes, rfl, hhtml⟩
          rw [parseRenderedWith_of_ok hhtml (hunmarked nodes hhtml)]
          cases hcaption : captionOf nodes with
          | ok children =>
              obtain ⟨attrs, rfl⟩ := captionOf_eq_ok.1 hcaption
              exact .ok rfl (.item hname hline hhtml) hbalanced
          | error reason =>
              have hmended : captionError reason =
                  some (.error ("Gallery caption must be inline content: " ++ reason.message)) :=
                if_pos (isStructural_of_captionOf hcaption)
              have hrecovered : (Session.fail reason).recover captionError = .done
                  (.error ("Gallery caption must be inline content: " ++ reason.message)) := by
                rw [Session.recover, hmended]
              simp only [Session.done_bind, hcaption, Session.ofExcept, Session.fail_bind,
                hrecovered]
              exact .ok rfl (.noParagraph hname hline hhtml hcaption) hbalanced

theorem makes_recoverGallery (hservice : RendersPlainly service) (hdepth : 0 < ctx.depth)
    (n : Node) : (recoverGallery (parseContent ctx) n).Makes service (GalleryOf ctx.title n) := by
  unfold recoverGallery
  cases hread : readGallery? (n.attr? "data-mw") with
  | none => exact makes_done (.malformed hread)
  | some source =>
      refine (makes_mapM (makes_galleryItem hservice hdepth) source.lines).bind ?_
      intro log items hitems
      refine makes_done ?_
      rw [List.append_nil]
      exact .read hread hitems

/-- A run in which a gallery is put back. It succeeds if all HTML that it gets is balanced. -/
structure Recovers (title : String) (n : Node) (run : Run σ Forest) : Prop where
  isOk_iff : run.outcome.isOk = true ↔ ∀ exchange ∈ run.log, Balanced exchange
  /-- What is wrong with the gallery is then shown in its place. -/
  shown : ∀ nodes, run.outcome = .ok nodes → ∃ m, nodes = [m] ∧ GalleryOf title n run.log m
  /-- Otherwise the first HTML that is not balanced comes last, and is what the run fails for. -/
  refused : run.outcome.isOk = false → ∃ before exchange message,
    run.log = before ++ [exchange] ∧ (∀ exchange ∈ before, Balanced exchange) ∧
      Refused exchange message ∧ run.outcome = .failed (.markup message)

/-- Whatever is kept beside a gallery, and whatever plain HTML the service renders, putting the
    gallery back fails for nothing but a caption that is rendered to HTML that is not balanced. -/
theorem recovers_galleries (service : Call → StateM σ Answer) (hservice : RendersPlainly service)
    (ctx : Context) (hdepth : 0 < ctx.depth) (n : Node) (hn : isGallery n = true) (state : σ) :
    Recovers ctx.title n
      (((galleries (parseContent ctx)).walk ctx [n]).observe service state) := by
  have hmakes : ((galleries (parseContent ctx)).walk ctx [n]).Makes service fun log nodes =>
      ∃ m, nodes = [m] ∧ GalleryOf ctx.title n log m := by
    rw [galleries, ← Pass.replacing, Pass.replacing_singleton hn]
    refine (makes_recoverGallery hservice hdepth n).bind ?_
    intro log m hm
    refine makes_done ⟨m, rfl, ?_⟩
    rwa [List.append_nil]
  cases hmakes state with
  | ok houtcome hmade hbalanced =>
      refine ⟨⟨fun _ => hbalanced, fun _ => by rw [houtcome]; rfl⟩, ?_, ?_⟩
      · intro nodes hnodes
        cases houtcome.symm.trans hnodes
        exact hmade
      · intro hfailed
        rw [houtcome] at hfailed
        cases hfailed
  | @refused before exchange message houtcome hlog hbefore hrefused =>
      refine ⟨⟨?_, ?_⟩, ?_,
        fun _ => ⟨before, exchange, message, hlog, hbefore, hrefused, houtcome⟩⟩
      · intro hok
        rw [houtcome] at hok
        cases hok
      · intro hbalanced
        exact absurd (hbalanced exchange (by simp [hlog])) hrefused.not_balanced
      · intro nodes hnodes
        cases houtcome.symm.trans hnodes

/-- A gallery of two lines, the second without a caption. -/
def captionedGallery : Node :=
  .element "ul" (.ofList [("typeof", "mw:Extension/gallery"),
    ("data-mw", "\x7b\"body\":\x7b\"extsrc\":\"A.jpg|caption\\nB.jpg\"\x7d\x7d")]) []

/-- A service that answers everything alike. -/
def answering (text : String) : Call → StateM Unit Answer :=
  fun _ => return .ok text

/-- Putting the gallery back while the service answers everything with the text. -/
def captionedRun (text : String) : Run Unit Forest :=
  ((galleries (parseContent ⟨"Title", 1⟩)).walk ⟨"Title", 1⟩ [captionedGallery]).observe
    (answering text) ()

theorem recovers_galleries_captionedGallery :
    RendersPlainly (answering "<p>x</p>") ∧ isGallery captionedGallery = true ∧
      Recovers "Title" captionedGallery (captionedRun "<p>x</p>") ∧
      (captionedRun "<p>x</p>").outcome.isOk = true := by
  have hservice : RendersPlainly (answering "<p>x</p>") := by
    intro title text state
    refine ⟨_, rfl, ?_⟩
    intro nodes h
    have hparse : Html.parse "<p>x</p>" = .ok [.element "p" ∅ [.text "x"]] := rfl
    cases hparse.symm.trans h
    simp only [everywhere_singleton, Node.sequences, List.forall_mem_singleton,
      List.not_mem_nil, false_imp_iff, implies_true, and_true]
    exact ⟨⟨by decide, by decide⟩, ⟨by decide, by decide⟩⟩
  have hgallery : isGallery captionedGallery = true := by decide
  have hrecovers : Recovers "Title" captionedGallery (captionedRun "<p>x</p>") :=
    recovers_galleries (answering "<p>x</p>") hservice ⟨"Title", 1⟩ (by decide)
      captionedGallery hgallery ()
  exact ⟨hservice, hgallery, hrecovers, by decide +kernel⟩

/-- A caption that is rendered to HTML that is not balanced ends the conversion. -/
theorem galleries_refuse_captionedGallery :
    RendersPlainly (answering "<b>x") ∧ isGallery captionedGallery = true ∧
      (captionedRun "<b>x").outcome = .failed (.markup "unclosed element <b>") := by
  refine ⟨?_, by decide, ?_⟩
  · intro title text state
    refine ⟨_, rfl, ?_⟩
    intro nodes h
    have hparse : Html.parse "<b>x" = .error (.markup "unclosed element <b>") := rfl
    cases hparse.symm.trans h
  · have hrun : (captionedRun "<b>x").outcome.map (fun _ => ()) =
        .failed (.markup "unclosed element <b>") := by
      decide +kernel
    exact Outcome.map_eq_failed.1 hrun

end Markup

end ArticleTree
