import ArticleTree.Markup.Content
import ArticleTree.Proofs.Html.Nodes
import ArticleTree.Proofs.Pass.Guard
import ArticleTree.Proofs.Pass.Walk

/-! # Trees whose macro calls and galleries are recovered

What parsing markup returns, whatever the service renders. A call or a gallery that was put
back is not walked again by the pass that put it back. So the property holds at every depth
only since markup inside calls and captions runs through both passes by itself: the induction
is on how deeply content is nested, and at each depth over the nodes that either pass meets.
-/

namespace ArticleTree.Markup

open Session hiding bind
open Pass

/-! ## The property -/

/-- The value is parsed if the parameter holds markup, and as it was written if not. -/
def ParamRead (name key : String) (value : Param) : Prop :=
  (isContentParam name key = true ∧ ∃ nodes, value = .content nodes) ∨
    (isContentParam name key = false ∧ ∃ data, value = .text data)

/-- A node of a tree whose macro calls are recovered. -/
structure CallsRecovered (n : Node) : Prop where
  kind : n.kind ∈ [.text, .element, .template, .gallery, .galleryItem, .error]
  noTransclusion : n.attr? "typeof" ≠ some "mw:Transclusion"
  params : ∀ name params, n = .template name params →
    ∀ key value, (key, value) ∈ params → ParamRead name key value
  galleryChildren : ∀ widths heights children, n = .gallery widths heights children →
    ∀ child ∈ children, child.kind = .galleryItem ∨ child.kind = .error
  items : n.kind ≠ .gallery → ∀ s ∈ n.sequences, ∀ child ∈ s, child.kind ≠ .galleryItem

/-- A node of a tree whose macro calls and galleries are recovered. -/
structure Recovered (n : Node) : Prop extends CallsRecovered n where
  noGalleryList : n.name? = some "ul" → n.attr? "typeof" ≠ some "mw:Extension/gallery"

/-- At every depth macro calls and galleries are recovered. Items of galleries stand in
    galleries only. -/
structure RecoveredForest (nodes : Forest) : Prop where
  everywhere : Everywhere Recovered nodes
  items : ∀ n ∈ nodes, n.kind ≠ .galleryItem

theorem RecoveredForest.children {node : Node} {s : Forest} (h : RecoveredForest [node])
    (hs : s ∈ node.sequences) (hkind : node.kind ≠ .gallery) : RecoveredForest s := by
  obtain ⟨hnode, hbelow⟩ := everywhere_singleton.1 h.everywhere
  exact ⟨hbelow s hs, hnode.items hkind s hs⟩

/-! ## Macro calls -/

theorem isTransclusion_iff {n : Node} :
    isTransclusion n = true ↔ n.kind = .element ∧ n.attr? "typeof" = some "mw:Transclusion" := by
  simp [isTransclusion, Guard.passes_iff]

theorem attr?_eq_none {n : Node} {key : String} (h : n.kind ≠ .element) : n.attr? key = none := by
  cases n with
  | element => exact absurd rfl h
  | _ => rfl

theorem typeof_of_not_transclusion {n : Node} (h : isTransclusion n = false) :
    n.attr? "typeof" ≠ some "mw:Transclusion" := by
  intro htypeof
  by_cases hkind : n.kind = .element
  · simp [isTransclusion_iff.2 ⟨hkind, htypeof⟩] at h
  · simp [attr?_eq_none hkind] at htypeof

variable {parse : String → Session Forest} {ctx : Context}

theorem paramRead_of_readParams {name : String} {texts : List (String × String)}
    {params : List (String × Param)} (h : (readParams parse name texts).Returns params)
    {key : String} {value : Param} (hmem : (key, value) ∈ params) :
    ParamRead name key value ∧
      ∀ nodes, value = .content nodes → ∃ text, (parse text).Returns nodes := by
  induction texts generalizing params with
  | nil =>
      simp only [readParams, pure_eq, returns_done] at h
      subst h
      cases hmem
  | cons entry texts ih =>
      obtain ⟨k, text⟩ := entry
      cases hcontent : isContentParam name k with
      | false =>
          simp only [readParams, hcontent, Bool.false_eq_true, if_false, returns_bind, pure_eq,
            returns_done] at h
          obtain ⟨_, rfl, rest, hrest, rfl⟩ := h
          rcases List.mem_cons.1 hmem with heq | hmem
          · cases heq
            exact ⟨.inr ⟨hcontent, text, rfl⟩, by simp⟩
          · exact ih hrest hmem
      | true =>
          simp only [readParams, hcontent, if_true, returns_bind, returns_map, pure_eq,
            returns_done] at h
          obtain ⟨_, ⟨nodes, hnodes, rfl⟩, rest, hrest, rfl⟩ := h
          rcases List.mem_cons.1 hmem with heq | hmem
          · cases heq
            refine ⟨.inl ⟨hcontent, nodes, rfl⟩, ?_⟩
            intro nodes' h
            cases h
            exact ⟨text, hnodes⟩
          · exact ih hrest hmem

/-- A call that is put back is a template, and its parsed parameters are recovered if
    what parses them recovers. -/
theorem recovered_of_recoverCall
    (hparse : ∀ text nodes, (parse text).Returns nodes → RecoveredForest nodes) {n m : Node}
    (h : (recoverCall parse n).Returns m) : m.kind = .template ∧ Everywhere Recovered [m] := by
  unfold recoverCall at h
  split at h
  · exact absurd h not_returns_fail
  · rename_i call _
    simp only [MacroCall.template, returns_bind, pure_eq, returns_done] at h
    obtain ⟨params, hparams, rfl⟩ := h
    have below : ∀ s ∈ Param.sequencesByKey params, RecoveredForest s := by
      intro s hs
      obtain ⟨key, value, hmem, hs⟩ := Param.mem_sequencesByKey.1 hs
      obtain ⟨hread, hnodes⟩ := paramRead_of_readParams hparams hmem
      rcases hread with ⟨_, nodes, rfl⟩ | ⟨_, data, rfl⟩
      · obtain ⟨text, htext⟩ := hnodes nodes rfl
        rw [Param.sequences, List.mem_singleton] at hs
        exact hparse text s (hs ▸ htext)
      · cases hs
    refine ⟨rfl, everywhere_singleton.2 ⟨?_, fun s hs => (below s hs).everywhere⟩⟩
    exact {
      kind := by simp [Node.kind]
      noTransclusion := by simp [Node.attr?]
      params := by
        rintro name params' heq key value hmem
        cases heq
        exact (paramRead_of_readParams hparams hmem).1
      galleryChildren := by simp
      items := fun _ s hs => (below s hs).items
      noGalleryList := by simp [Node.attr?] }

/-- A node that may come out of a tokenizer. -/
def IsMarkup (n : Node) : Prop := n.kind = .text ∨ n.kind = .element

theorem ofMarkup_isMarkup : Html.OfMarkup IsMarkup :=
  ⟨fun _ => .inl rfl, fun _ _ _ => .inr rfl⟩

theorem kind_of_transclusions
    (hparse : ∀ text nodes, (parse text).Returns nodes → RecoveredForest nodes) {n m : Node}
    (h : ((transclusions parse).node ctx n).Returns (some m)) :
    m.kind = n.kind ∨ m.kind = .template := by
  rcases replacing_node_returns.1 h with ⟨_, given, _, rfl⟩ | ⟨_, h⟩
  · exact .inl (Node.kind_refill n given)
  · exact .inr (recovered_of_recoverCall hparse h).1

/-- The first pass recovers the calls of parsed HTML. -/
theorem callsRecovered_of_transclusions
    (hparse : ∀ text nodes, (parse text).Returns nodes → RecoveredForest nodes)
    {nodes out : Forest} (hnodes : Everywhere IsMarkup nodes)
    (h : ((transclusions parse).walk ctx nodes).Returns out) :
    Everywhere CallsRecovered out ∧ ∀ n ∈ out, n.kind ≠ .galleryItem := by
  have noItem : ∀ {s t : Forest}, Everywhere IsMarkup s →
      ((transclusions parse).walk ctx s).Returns t → ∀ child ∈ t, child.kind ≠ .galleryItem := by
    intro s t hs hwalk child hchild
    obtain ⟨n, hn, hnode⟩ := exists_of_mem_walk hwalk hchild
    have hmarkup := (everywhere_iff.1 hs n hn).1
    rcases kind_of_transclusions hparse hnode with hkind | hkind
    · rw [hkind]
      rcases hmarkup with hkind | hkind <;> simp [hkind]
    · simp [hkind]
  refine ⟨?_, noItem hnodes h⟩
  refine replacing_everywhere ?_ ?_ hnodes h
  · intro n hn hguard given hgiven
    obtain ⟨hmarkup, hbelow⟩ := everywhere_singleton.1 hn
    have hkind : (n.refill given).kind = .text ∨ (n.refill given).kind = .element := by
      rwa [Node.kind_refill]
    exact {
      kind := by rcases hkind with hkind | hkind <;> simp [hkind]
      noTransclusion := by
        rw [Node.attr?_refill]
        exact typeof_of_not_transclusion hguard
      params := fun name params heq => by simp [heq, Node.kind] at hkind
      galleryChildren := fun _ _ _ heq => by simp [heq, Node.kind] at hkind
      items := by
        intro _ t ht
        rw [Node.sequences_refill hgiven.length_eq.symm] at ht
        obtain ⟨s, hs, hwalk⟩ := exists_of_forall₂_of_mem hgiven ht
        exact noItem (hbelow s hs) hwalk }
  · intro n m _ _ hm
    exact (recovered_of_recoverCall hparse hm).2.mono fun _ h => h.toCallsRecovered

/-! ## Galleries -/

theorem isGallery_iff {n : Node} :
    isGallery n = true ↔
      n.kind = .element ∧ n.name? = some "ul" ∧
        n.attr? "typeof" = some "mw:Extension/gallery" := by
  simp [isGallery, Guard.passes_iff, and_assoc]

theorem typeof_of_not_gallery {n : Node} (h : isGallery n = false) :
    n.name? = some "ul" → n.attr? "typeof" ≠ some "mw:Extension/gallery" := by
  intro hname htypeof
  by_cases hkind : n.kind = .element
  · simp [isGallery_iff.2 ⟨hkind, hname, htypeof⟩] at h
  · simp [attr?_eq_none hkind] at htypeof

/-- What is neither an element nor a macro only needs to own the right nodes. -/
theorem recovered_of_kind {n : Node} (hkind : n.kind ∈ [.gallery, .galleryItem, .error])
    (hchildren : ∀ widths heights children, n = .gallery widths heights children →
      ∀ child ∈ children, child.kind = .galleryItem ∨ child.kind = .error)
    (hitems : n.kind ≠ .gallery → ∀ s ∈ n.sequences, ∀ child ∈ s, child.kind ≠ .galleryItem) :
    Recovered n := by
  have helement : n.kind ≠ .element := by
    intro heq
    simp [heq] at hkind
  exact {
    kind := by
      simp only [List.mem_cons, List.not_mem_nil, or_false] at hkind ⊢
      tauto
    noTransclusion := by simp [attr?_eq_none helement]
    params := by
      rintro name params rfl
      simp [Node.kind] at hkind
    galleryChildren := hchildren
    items := hitems
    noGalleryList := by simp [attr?_eq_none helement] }

theorem recovered_error (message : String) : Everywhere Recovered [.error message] := by
  rw [everywhere_singleton]
  exact ⟨recovered_of_kind (by simp [Node.kind]) (by simp) (by simp [Node.sequences]),
    by simp [Node.sequences]⟩

/-- A caption is what is in a single paragraph. -/
theorem captionOf_eq_ok {content caption : Forest} :
    captionOf content = .ok caption ↔ ∃ attrs, content = [.element "p" attrs caption] := by
  constructor
  · intro h
    unfold captionOf at h
    split at h
    · rename_i node
      cases hguard : Guard.ensure [.element "p"] node with
      | error reason => simp [hguard, bind, Except.bind] at h
      | ok _ =>
          obtain ⟨attrs, children, rfl⟩ :=
            Guard.exists_of_passes_element (Guard.ensure_eq_ok.1 hguard)
          simp only [hguard, bind, Except.bind, pure, Except.pure, Except.ok.injEq] at h
          exact ⟨attrs, h ▸ rfl⟩
    · cases h
  · rintro ⟨attrs, rfl⟩
    rfl

/-- A caption is what one paragraph owns. -/
theorem recovered_of_captionOf {content caption : Forest} (h : captionOf content = .ok caption)
    (hcontent : RecoveredForest content) : RecoveredForest caption := by
  obtain ⟨attrs, rfl⟩ := captionOf_eq_ok.1 h
  exact hcontent.children (List.mem_singleton.2 rfl) (by simp [Node.kind])

/-- The node of a line is an item whose caption is recovered, or an error. -/
theorem recovered_of_galleryItem
    (hparse : ∀ text nodes, (parse text).Returns nodes → RecoveredForest nodes) {line : String}
    {m : Node} (h : (galleryItem parse line).Returns m) :
    (m.kind = .galleryItem ∨ m.kind = .error) ∧ Everywhere Recovered [m] := by
  unfold galleryItem at h
  split at h
  · simp only [pure_eq, returns_done] at h
    subst h
    exact ⟨.inr rfl, recovered_error _⟩
  · rcases returns_of_recover h with h | ⟨reason, h⟩
    · simp only [inlineContent, returns_bind, returns_ofExcept, pure_eq, returns_done] at h
      obtain ⟨caption, ⟨content, hcontent, hcaption⟩, rfl⟩ := h
      have hbelow := recovered_of_captionOf hcaption (hparse _ _ hcontent)
      refine ⟨.inl rfl, everywhere_singleton.2 ⟨?_, ?_⟩⟩
      · apply recovered_of_kind (by simp [Node.kind]) (by simp)
        intro _ s hs
        exact List.mem_singleton.1 hs ▸ hbelow.items
      · intro s hs
        exact List.mem_singleton.1 hs ▸ hbelow.everywhere
    · unfold captionError at h
      split at h
      · cases h
        exact ⟨.inr rfl, recovered_error _⟩
      · cases h

theorem recovered_of_recoverGallery
    (hparse : ∀ text nodes, (parse text).Returns nodes → RecoveredForest nodes) {n m : Node}
    (h : (recoverGallery parse n).Returns m) :
    (m.kind = .gallery ∨ m.kind = .error) ∧ Everywhere Recovered [m] := by
  unfold recoverGallery at h
  split at h
  · simp only [pure_eq, returns_done] at h
    subst h
    exact ⟨.inr rfl, recovered_error _⟩
  · rename_i source _
    simp only [GallerySource.gallery, returns_bind, returns_mapM, pure_eq, returns_done] at h
    obtain ⟨children, hchildren, rfl⟩ := h
    have hchild : ∀ child ∈ children,
        (child.kind = .galleryItem ∨ child.kind = .error) ∧ Everywhere Recovered [child] := by
      intro child hmem
      obtain ⟨line, _, hline⟩ := exists_of_forall₂_of_mem hchildren hmem
      exact recovered_of_galleryItem hparse hline
    refine ⟨.inl rfl, everywhere_singleton.2 ⟨?_, ?_⟩⟩
    · refine recovered_of_kind (by simp [Node.kind]) ?_ fun h => absurd rfl h
      rintro widths heights children' heq child hmem
      cases heq
      exact (hchild child hmem).1
    · intro s hs
      obtain rfl := List.mem_singleton.1 hs
      exact everywhere_iff_forall_mem.2 fun child hmem => (hchild child hmem).2

/-- Only an element is replaced by the second pass. -/
theorem kind_of_galleries
    (hparse : ∀ text nodes, (parse text).Returns nodes → RecoveredForest nodes) {n m : Node}
    (h : ((galleries parse).node ctx n).Returns (some m)) :
    m.kind = n.kind ∨ n.kind = .element ∧ (m.kind = .gallery ∨ m.kind = .error) := by
  rcases replacing_node_returns.1 h with ⟨_, given, _, rfl⟩ | ⟨hguard, h⟩
  · exact .inl (Node.kind_refill n given)
  · exact .inr ⟨(isGallery_iff.1 hguard).1, (recovered_of_recoverGallery hparse h).1⟩

theorem noItem_of_galleries
    (hparse : ∀ text nodes, (parse text).Returns nodes → RecoveredForest nodes)
    {s t : Forest} (hs : ∀ child ∈ s, child.kind ≠ .galleryItem)
    (h : ((galleries parse).walk ctx s).Returns t) : ∀ child ∈ t, child.kind ≠ .galleryItem := by
  intro child hchild
  obtain ⟨n, hn, hnode⟩ := exists_of_mem_walk h hchild
  rcases kind_of_galleries hparse hnode with hkind | ⟨_, hkind | hkind⟩
  · exact hkind ▸ hs n hn
  · simp [hkind]
  · simp [hkind]

/-- Walking below a macro does not change how its parameters are read. -/
theorem CallsRecovered.paramRead_refill {n : Node} (h : CallsRecovered n) {given : List Forest}
    {name : String} {params : List (String × Param)} (heq : n.refill given = .template name params)
    {key : String} {value : Param} (hmem : (key, value) ∈ params) : ParamRead name key value := by
  cases n with
  | template name' old =>
      cases heq
      obtain ⟨value', rest, hold, rfl⟩ := Param.exists_of_mem_refillByKey hmem
      rcases h.params name old rfl key value' hold with
        ⟨hcontent, nodes, rfl⟩ | ⟨htext, data, rfl⟩
      · cases rest with
        | nil => exact .inl ⟨hcontent, nodes, rfl⟩
        | cons first rest => exact .inl ⟨hcontent, first, rfl⟩
      · exact .inr ⟨htext, data, rfl⟩
  | _ => cases heq

/-- Walking below a gallery leaves items and errors what they are. -/
theorem CallsRecovered.galleryChildren_refill
    (hparse : ∀ text nodes, (parse text).Returns nodes → RecoveredForest nodes) {n : Node}
    (h : CallsRecovered n) {given : List Forest}
    (hgiven : List.Forall₂ (fun s t => ((galleries parse).walk ctx s).Returns t) n.sequences given)
    {widths heights : UInt32} {children : Forest}
    (heq : n.refill given = .gallery widths heights children) {child : Node}
    (hmem : child ∈ children) : child.kind = .galleryItem ∨ child.kind = .error := by
  cases n with
  | gallery widths' heights' old =>
      obtain ⟨new, rfl⟩ := List.length_eq_one_iff.1 hgiven.length_eq.symm
      cases heq
      obtain ⟨s, hs, hwalk⟩ := exists_of_forall₂_of_mem hgiven List.mem_cons_self
      obtain rfl := List.mem_singleton.1 hs
      obtain ⟨c, hc, hnode⟩ := exists_of_mem_walk hwalk hmem
      have hkind := h.galleryChildren widths heights s rfl c hc
      rcases kind_of_galleries hparse hnode with heq | ⟨helement, _⟩
      · exact heq ▸ hkind
      · simp [helement] at hkind
  | _ => cases heq

/-- The second pass recovers the galleries of a tree whose calls are recovered. -/
theorem recovered_of_galleries
    (hparse : ∀ text nodes, (parse text).Returns nodes → RecoveredForest nodes)
    {nodes out : Forest} (hnodes : Everywhere CallsRecovered nodes)
    (h : ((galleries parse).walk ctx nodes).Returns out) : Everywhere Recovered out := by
  refine replacing_everywhere ?_ ?_ hnodes h
  · intro n hn hguard given hgiven
    have hcalls := (everywhere_singleton.1 hn).1
    exact {
      kind := by
        rw [Node.kind_refill]
        exact hcalls.kind
      noTransclusion := by
        rw [Node.attr?_refill]
        exact hcalls.noTransclusion
      noGalleryList := by
        rw [Node.attr?_refill, Node.name?_refill]
        exact typeof_of_not_gallery hguard
      params := fun _ _ heq _ _ hmem => hcalls.paramRead_refill heq hmem
      galleryChildren := fun _ _ _ heq _ hmem =>
        hcalls.galleryChildren_refill hparse hgiven heq hmem
      items := by
        intro hkind t ht
        rw [Node.kind_refill] at hkind
        rw [Node.sequences_refill hgiven.length_eq.symm] at ht
        obtain ⟨s, hs, hwalk⟩ := exists_of_forall₂_of_mem hgiven ht
        exact noItem_of_galleries hparse (hcalls.items hkind s hs) hwalk }
  · intro n m _ _ hm
    exact (recovered_of_recoverGallery hparse hm).2

/-! ## Parsing -/

/-- Parsed HTML is recovered if what parses the markup in it recovers. -/
theorem recovered_of_parseRenderedWith
    (hparse : ∀ text nodes, (parse text).Returns nodes → RecoveredForest nodes) {html : String}
    {forest : Forest} (h : (parseRenderedWith parse ctx html).Returns forest) :
    RecoveredForest forest := by
  simp only [parseRenderedWith, chain_run, returns_bind, returns_ofExcept] at h
  obtain ⟨nodes, hnodes, calls, hcalls, hout⟩ := h
  obtain ⟨hrecovered, hitems⟩ := callsRecovered_of_transclusions hparse
    (Html.everywhere_parse ofMarkup_isMarkup hnodes) hcalls
  exact ⟨recovered_of_galleries hparse hrecovered hout, noItem_of_galleries hparse hitems hout⟩

theorem recovered_of_parseWithin {depth : Nat} {text : String} {forest : Forest}
    (h : (parseWithin ctx depth text).Returns forest) : RecoveredForest forest := by
  induction depth generalizing text forest with
  | zero => exact absurd h not_returns_tooDeep
  | succ depth ih =>
      simp only [parseWithin, returns_bind] at h
      obtain ⟨html, _, h⟩ := h
      exact recovered_of_parseRenderedWith (fun text nodes h => ih h) h

/-- Whatever a service answers, and whatever state it keeps, the tree that parsing markup or
    rendered HTML ends with is recovered at every depth. -/
theorem recoveredForest_of_run {σ : Type} (service : Call → StateM σ Answer) (state : σ)
    (ctx : Context) (text : String) (forest : Forest)
    (h : ((parseRendered ctx text).runM service state).1 = .ok forest ∨
      ((parseContent ctx text).runM service state).1 = .ok forest) :
    RecoveredForest forest := by
  rcases h with h | h
  · exact recovered_of_parseRenderedWith (fun _ _ h => recovered_of_parseWithin h)
      (returns_of_runM h)
  · exact recovered_of_parseWithin (returns_of_runM h)

/-- A macro call whose parameter holds a gallery. -/
def galleryInWarning : String :=
  "<p typeof=\"mw:Transclusion\" data-mw=\x27\x7b\"parts\":[\x7b\"template\":\x7b" ++
    "\"target\":\x7b\"wt\":\"Warnung\"\x7d," ++
    "\"params\":\x7b\"1\":\x7b\"wt\":\"gallery\"\x7d\x7d\x7d\x7d]\x7d\x27>x</p>"

/-- A service that counts its calls, and makes a gallery of one text and a paragraph of every
    other. -/
def countingRenderer : Call → StateM Nat Answer
  | .renderHtml _ "gallery" => do
      modify (· + 1)
      return .ok ("<ul typeof=\"mw:Extension/gallery\" data-mw=\x27\x7b\"body\":\x7b" ++
        "\"extsrc\":\"A.jpg|caption\"\x7d\x7d\x27><li>x</li></ul>")
  | .renderHtml _ text => do
      modify (· + 1)
      return .ok ("<p>" ++ text ++ "</p>")
  | .getContent _ => return .ok "gallery"

theorem recoveredForest_galleryInWarning :
    ∃ forest, ((parseRendered ⟨"Title", 3⟩ galleryInWarning).runM countingRenderer 0).1 =
        .ok forest ∧ RecoveredForest forest := by
  have hok : ((parseRendered ⟨"Title", 3⟩ galleryInWarning).runM countingRenderer 0).1.isOk =
      true := by
    decide +kernel
  obtain ⟨forest, hrun⟩ := Outcome.exists_of_isOk hok
  exact ⟨forest, hrun, recoveredForest_of_run countingRenderer 0 ⟨"Title", 3⟩ galleryInWarning
    forest (.inl hrun)⟩

end ArticleTree.Markup
