import ArticleTree.Proofs.Markup.Captions
import ArticleTree.Proofs.Session.InOrder
import ArticleTree.Proofs.Text.Lines

/-! # The lines of a gallery

A gallery that is put back has a child for each line of its source, in their order, and the
captions are parsed one after the other. Whatever a caption is parsed to, there is something to
show for it, so a service that never complains about the shape of a node is never interfered with:
the first of its failures ends the run.
-/

namespace ArticleTree.Markup

open Session (Collects collects_done)

/-- What stands in a gallery for a line with a caption. It is an item if the caption is parsed to a
    single paragraph, and an error otherwise. -/
inductive ItemFor (name : List Char) : Forest → Node → Prop where
  | paragraph {attrs : Attributes} {children : Forest} :
      ItemFor name [.element "p" attrs children] (.galleryItem (Text.trim (.ofList name)) children)
  | other {content : Forest} {reason : Failure} :
      (∀ attrs children, content ≠ [.element "p" attrs children]) →
      captionOf content = .error reason →
      ItemFor name content (.error ("Gallery caption must be inline content: " ++ reason.message))

/-- What stands in a gallery for lines, by what their captions are parsed to. -/
inductive ItemsFor : List (List Char) → List Forest → List Node → Prop where
  | nil : ItemsFor [] [] []
  | noCaption {line : List Char} {lines : List (List Char)} {contents : List Forest}
      {items : List Node} : '|' ∉ line → ItemsFor lines contents items →
      ItemsFor (line :: lines) contents (.error "Gallery item needs a caption" :: items)
  | captioned {name caption : List Char} {lines : List (List Char)} {content : Forest}
      {contents : List Forest} {item : Node} {items : List Node} : '|' ∉ name →
      ItemFor name content item → ItemsFor lines contents items →
      ItemsFor ((name ++ '|' :: caption) :: lines) (content :: contents) (item :: items)

/-- The captions of those lines that have one: what stands behind the first bar. -/
def captionTexts (lines : List (List Char)) : List String :=
  lines.filterMap fun line => (Text.cutAt? '|' line).map fun parts => .ofList parts.2

theorem captionTexts_cons_of_not_mem {line : List Char} (h : '|' ∉ line)
    (lines : List (List Char)) : captionTexts (line :: lines) = captionTexts lines := by
  simp [captionTexts, Text.cutAt?_eq_none.2 h]

theorem captionTexts_cons {line : List Char} {parts : List Char × List Char}
    (h : Text.cutAt? '|' line = some parts) (lines : List (List Char)) :
    captionTexts (line :: lines) = .ofList parts.2 :: captionTexts lines := by
  simp [captionTexts, h]

/-- There is something to show for every caption. -/
theorem exists_itemFor (name : List Char) (content : Forest) :
    ∃ item, ItemFor name content item ∧
      ((Session.ofExcept (captionOf content) >>= fun caption =>
        return Node.galleryItem (Text.trim (.ofList name)) caption).recover captionError) =
          .done item := by
  cases hcaption : captionOf content with
  | ok children =>
      obtain ⟨attrs, rfl⟩ := captionOf_eq_ok.1 hcaption
      exact ⟨_, .paragraph, rfl⟩
  | error reason =>
      refine ⟨_, .other ?_ hcaption, ?_⟩
      · rintro attrs children rfl
        cases hcaption
      · simp only [Session.ofExcept, Session.fail_bind, Session.recover, captionError,
          isStructural_of_captionOf hcaption, if_true]

section

variable {σ : Type} {service : Call → StateM σ Answer} {parse : String → Session Forest}
  {asks : Call → Prop} {own : Failure → Prop}

/-- Seen from outside, a line with a caption is the parsing of the caption. -/
theorem observe_galleryItem (hservice : NeverStructural service)
    (hparse : ∀ text, (parse text).FailsFast asks own)
    (hown : ∀ reason, own reason → reason.isStructural = false) {line : List Char}
    {name caption : List Char} (hcut : Text.cutAt? '|' line = some (name, caption)) (state : σ) :
    (galleryItem parse (.ofList line)).observe service state =
      (parse (.ofList caption) >>= fun content =>
        .done (exists_itemFor name content).choose).observe service state := by
  have hmend (reason : Failure) (h : reason.isStructural = false) : captionError reason = none := by
    simp [captionError, h]
  simp only [galleryItem, String.toList_ofList, hcut, inlineContent, bind_assoc]
  rw [(hparse _).observe_recover_bind hmend hown hservice]
  congr 2
  funext content
  exact (exists_itemFor name content).choose_spec.2

/-- The children of a gallery collect what the captions are parsed to. -/
theorem collects_mapM_galleryItem (hservice : NeverStructural service)
    (hparse : ∀ text, (parse text).FailsFast asks own)
    (hown : ∀ reason, own reason → reason.isStructural = false) (lines : List (List Char)) :
    ((lines.map String.ofList).mapM (galleryItem parse)).Collects service parse
      (captionTexts lines) (ItemsFor lines) := by
  induction lines with
  | nil => exact collects_done .nil
  | cons line lines ih =>
      rw [List.map_cons, List.mapM_cons]
      cases hcut : Text.cutAt? '|' line with
      | none =>
          have hline := Text.cutAt?_eq_none.1 hcut
          rw [captionTexts_cons_of_not_mem hline]
          simp only [galleryItem, String.toList_ofList, hcut, pure_bind]
          rw [← map_eq_pure_bind]
          exact ih.map fun _ _ hitems => .noCaption hline hitems
      | some parts =>
          obtain ⟨name, caption⟩ := parts
          obtain ⟨hname, rfl⟩ := Text.cutAt?_eq_some hcut
          rw [captionTexts_cons hcut]
          refine Collects.congr ?_ fun state => Session.observe_bind_congr
            (observe_galleryItem hservice hparse hown hcut) _ state
          simp only [bind_assoc, Session.done_bind]
          refine Collects.cons fun content => ?_
          rw [← map_eq_pure_bind]
          exact ih.map fun _ _ hitems =>
            .captioned hname (exists_itemFor name content).choose_spec.1 hitems

/-- The lines that stand for items are those that are not blank. -/
theorem GallerySource.exists_lines (source : GallerySource) :
    ∃ all, Text.DividedInto (Text.trim source.text).toList all ∧
      source.lines = (all.filter fun line => !line.all Text.isBlank).map .ofList := by
  refine ⟨Text.linesFrom [] (Text.trim source.text).toList,
    Text.dividedInto_linesFrom List.not_mem_nil _, ?_⟩
  rw [GallerySource.lines, Text.lines, List.filter_map]
  simp only [Function.comp_def, Text.isBlankText, String.toList_ofList]

end

/-- The session makes a gallery with one child for each line of the source that is not blank, in
    their order. What happens on the way is that the captions are parsed, each once, one after the
    other. -/
def PutsBackLines {σ : Type} (service : Call → StateM σ Answer) (parse : String → Session Forest)
    (source : GallerySource) (s : Session Forest) : Prop :=
  ∃ all, Text.DividedInto (Text.trim source.text).toList all ∧
    let lines := all.filter fun line => !line.all Text.isBlank
    s.Collects service parse (captionTexts lines) fun contents nodes =>
      ∃ items, ItemsFor lines contents items ∧
        nodes = [.gallery (source.size "widths") (source.size "heights") items]

/-- Whatever is asked and answered while the captions of a gallery are parsed, the gallery is put
    back line by line, if the service never complains about the shape of a node. -/
theorem putsBackLines_galleries {σ : Type} (service : Call → StateM σ Answer)
    (hservice : NeverStructural service) (ctx : Context) (depth : Nat) (n : Node)
    (hn : isGallery n = true) (source : GallerySource)
    (hread : readGallery? (n.attr? "data-mw") = some source) :
    PutsBackLines service (parseWithin ctx depth) source
      ((galleries (parseWithin ctx depth)).walk ctx [n]) := by
  obtain ⟨all, hall, hlines⟩ := source.exists_lines
  refine ⟨all, hall, ?_⟩
  rw [galleries, ← Pass.replacing, Pass.replacing_singleton hn, recoverGallery, hread]
  simp only [GallerySource.gallery, hlines, bind_assoc, pure_bind]
  rw [← map_eq_pure_bind]
  have hparse (text : String) := @failsFast_parseWithin ctx depth text
  exact (collects_mapM_galleryItem hservice hparse
    (fun _ => Failure.isStructural_of_isMalformed) _).map
      fun _ items hmade => ⟨items, hmade, rfl⟩

/-- A gallery of a line with two bars, an empty line, and a line without a bar. -/
def barredGallery : Node :=
  .element "ul" (.ofList [("typeof", "mw:Extension/gallery"),
    ("data-mw", "\x7b\"body\":\x7b\"extsrc\":\"A|x|y\\r\\n\\nB\"\x7d\x7d")]) []

/-- Putting it back while every text is rendered to one paragraph. -/
def barredRun : Run Unit Forest :=
  ((galleries (parseWithin ⟨"Title", 1⟩ 1)).walk ⟨"Title", 1⟩ [barredGallery]).observe
    (answering "<p>x</p>") ()

theorem putsBackLines_galleries_barredGallery :
    NeverStructural (answering "<p>x</p>") ∧ isGallery barredGallery = true ∧
      (∃ source, readGallery? (barredGallery.attr? "data-mw") = some source ∧
        PutsBackLines (answering "<p>x</p>") (parseWithin ⟨"Title", 1⟩ 1) source
          ((galleries (parseWithin ⟨"Title", 1⟩ 1)).walk ⟨"Title", 1⟩ [barredGallery])) ∧
      barredRun.outcome.isOk = true ∧ barredRun.calls = [.renderHtml "Title" "x|y"] := by
  have hservice : NeverStructural (answering "<p>x</p>") := by
    intro call state reason h
    cases h
  have hgallery : isGallery barredGallery = true := by decide
  have hsome : (readGallery? (barredGallery.attr? "data-mw")).isSome = true := by decide +kernel
  obtain ⟨source, hread⟩ := Option.isSome_iff_exists.1 hsome
  refine ⟨hservice, hgallery, ⟨source, hread, ?_⟩, by decide +kernel, by decide +kernel⟩
  exact putsBackLines_galleries (answering "<p>x</p>") hservice ⟨"Title", 1⟩ 1 barredGallery
    hgallery source hread

end ArticleTree.Markup
