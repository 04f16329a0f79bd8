import ArticleTree.Proofs.Html.Nodes
import ArticleTree.Proofs.Html.Stretches
import Mathlib.Data.List.Chain

/-! # The normal form of parsed texts

Parsing leaves no blanks where they would only come from the way in which HTML is written: not
alone in a text, not in front of what comes first, not behind what comes last in an element.

The builder cuts blanks off in front while its flag is up, and behind only when an element
closes. So the invariant says that the flag is up exactly as long as the sequence that the
builder is in is empty, and the end of a sequence is looked at where it is closed.
-/

namespace ArticleTree.Html

open Text (isBlank isBlankText solid dropBlanks)

/-! ## Neat forests -/

/-- The text has a word, and no blanks but spaces. -/
structure NeatText (data : String) : Prop where
  word : ∃ c ∈ data.toList, isBlank c = false
  space : ∀ c ∈ data.toList, isBlank c = true → c = ' '

/-- No two texts are neighbours, and one that comes first does not begin with a blank. -/
structure NeatSequence (nodes : Forest) : Prop where
  apart : nodes.IsChain fun a b => ¬ (a.kind = .text ∧ b.kind = .text)
  opening : ∀ n ∈ nodes.head?, ∀ data ∈ n.data?, ∀ c ∈ data.toList.head?, isBlank c = false

/-- A neat text, or an element with neat children. A text that comes last in an element does not
    end with a blank, and an element that cannot have children has none. -/
def NeatNode : Node → Prop
  | .text data => NeatText data
  | .element name _ children =>
      NeatSequence children ∧
        (∀ n ∈ children.getLast?, ∀ data ∈ n.data?, ∀ c ∈ data.toList.getLast?,
          isBlank c = false) ∧
        (voidElements.contains name = true → children = [])
  | _ => False

structure Neat (nodes : Forest) : Prop where
  everywhere : Everywhere NeatNode nodes
  sequence : NeatSequence nodes

theorem neat_nil : Neat [] :=
  ⟨everywhere_nil, .nil, by simp⟩

/-- A builder has its last node first, so a sequence grows at its head. -/
theorem neat_reverse_cons {n : Node} {nodes : Forest} : Neat (n :: nodes).reverse ↔
    Neat nodes.reverse ∧ Everywhere NeatNode [n] ∧
      (n.kind = .text → ∀ m ∈ nodes.head?, m.kind ≠ .text) ∧
      (nodes = [] → ∀ data ∈ n.data?, ∀ c ∈ data.toList.head?, isBlank c = false) := by
  have hevery : Everywhere NeatNode (n :: nodes).reverse ↔
      Everywhere NeatNode nodes.reverse ∧ Everywhere NeatNode [n] := by
    rw [everywhere_reverse, everywhere_reverse, everywhere_cons, and_comm]
  have hapart : ((n :: nodes).reverse.IsChain fun a b => ¬ (a.kind = .text ∧ b.kind = .text)) ↔
      (nodes.reverse.IsChain fun a b => ¬ (a.kind = .text ∧ b.kind = .text)) ∧
        (n.kind = .text → ∀ m ∈ nodes.head?, m.kind ≠ .text) := by
    rw [List.reverse_cons, List.isChain_append, List.getLast?_reverse]
    simp only [List.IsChain.singleton, Option.mem_def, List.head?_cons, Option.some.injEq,
      forall_eq', true_and]
    tauto
  have hopening : (∀ m ∈ (n :: nodes).reverse.head?, ∀ data ∈ m.data?,
        ∀ c ∈ data.toList.head?, isBlank c = false) ↔
      (∀ m ∈ nodes.reverse.head?, ∀ data ∈ m.data?, ∀ c ∈ data.toList.head?,
        isBlank c = false) ∧
        (nodes = [] → ∀ data ∈ n.data?, ∀ c ∈ data.toList.head?, isBlank c = false) := by
    cases nodes with
    | nil => simp
    | cons m nodes => simp
  constructor
  · rintro ⟨he, ha, ho⟩
    exact ⟨⟨(hevery.1 he).1, (hapart.1 ha).1, (hopening.1 ho).1⟩, (hevery.1 he).2,
      (hapart.1 ha).2, (hopening.1 ho).2⟩
  · rintro ⟨⟨he, ha, ho⟩, hn, hnext, hfirst⟩
    exact ⟨hevery.2 ⟨he, hn⟩, hapart.2 ⟨ha, hnext⟩, hopening.2 ⟨ho, hfirst⟩⟩

/-! ## Texts that grow and end -/

theorem neatText_ofList {cs : List Char} (hword : solid cs ≠ [])
    (hspace : ∀ c ∈ cs, isBlank c = true → c = ' ') : NeatText (.ofList cs) := by
  obtain ⟨c, hc⟩ := List.exists_mem_of_ne_nil _ hword
  refine ⟨⟨c, ?_, Text.not_isBlank_of_mem_solid hc⟩, ?_⟩
  · rw [String.toList_ofList]
    exact List.mem_of_mem_filter hc
  · rwa [String.toList_ofList]

theorem NeatText.solid_ne_nil {data : String} (h : NeatText data) : solid data.toList ≠ [] := by
  obtain ⟨c, hc, hblank⟩ := h.word
  exact List.ne_nil_of_mem (List.mem_filter.2 ⟨hc, by simp [hblank]⟩)

theorem NeatText.toList_ne_nil {data : String} (h : NeatText data) : data.toList ≠ [] := by
  obtain ⟨c, hc, -⟩ := h.word
  exact List.ne_nil_of_mem hc

/-- What a chunk adds has a word, with the blanks in front or without. -/
theorem neatText_settled {data : String} (h : isBlankText data = false) (first : Bool) :
    NeatText (.ofList (if first then dropBlanks (settled data) else settled data)) := by
  have hword : solid (settled data) ≠ [] := by
    rw [solid_settled, Ne, ← Text.isBlankText_iff, h]
    simp
  have hspace : ∀ c ∈ settled data, isBlank c = true → c = ' ' := by
    intro c hc
    rw [settled, if_neg (by simp [h])] at hc
    exact Text.eq_space_of_mem_collapseFrom hc
  cases first with
  | true =>
      refine neatText_ofList ?_ fun c hc => hspace c (List.dropWhile_sublist _ |>.mem hc)
      rw [if_pos rfl, Text.solid_dropBlanks]
      exact hword
  | false => exact neatText_ofList hword hspace

theorem NeatText.append {before data : String} (hbefore : NeatText before)
    (hdata : NeatText data) : NeatText (before ++ data) := by
  obtain ⟨c, hc, hblank⟩ := hbefore.word
  refine ⟨⟨c, ?_, hblank⟩, ?_⟩
  · rw [String.toList_append]
    exact List.mem_append_left _ hc
  · rw [String.toList_append, List.forall_mem_append]
    exact ⟨hbefore.space, hdata.space⟩

theorem NeatText.trimEnd {data : String} (h : NeatText data) : NeatText (Text.trimEnd data) := by
  refine neatText_ofList ?_ fun c hc => h.space c ((Text.dropBlanksAtEnd_prefix _).mem hc)
  rw [Text.solid_dropBlanksAtEnd]
  exact h.solid_ne_nil

/-- Blanks behind are no blanks in front. -/
theorem NeatText.head?_trimEnd {data : String} (h : NeatText data) :
    (Text.trimEnd data).toList.head? = data.toList.head? := by
  have hkept := h.trimEnd.toList_ne_nil
  rw [Text.trimEnd, String.toList_ofList] at hkept ⊢
  obtain ⟨rest, hrest⟩ := Text.dropBlanksAtEnd_prefix data.toList
  rw [← hrest, List.head?_append_of_ne_nil _ hkept, hrest]

theorem everywhere_neatText {data : String} (h : NeatText data) :
    Everywhere NeatNode [.text data] :=
  everywhere_singleton.2 ⟨h, by simp [Node.sequences]⟩

/-- A sequence stays neat when a text is added that does not begin with a blank where it would
    come first. -/
theorem Neat.appendText {nodes : Forest} (h : Neat nodes.reverse) {data : String}
    (hdata : NeatText data)
    (hopening : nodes = [] → ∀ c ∈ data.toList.head?, isBlank c = false) :
    Neat (appendText data nodes).reverse := by
  unfold Html.appendText
  split
  · rename_i before rest
    obtain ⟨hrest, hnode, hnext, hfirst⟩ := neat_reverse_cons.1 h
    have hbefore : NeatText before := (everywhere_singleton.1 hnode).1
    refine neat_reverse_cons.2 ⟨hrest, everywhere_neatText (hbefore.append hdata), hnext, ?_⟩
    rintro hnil _ ⟨⟩ c hc
    rw [String.toList_append, List.head?_append_of_ne_nil _ hbefore.toList_ne_nil] at hc
    exact hfirst hnil before rfl c hc
  · rename_i hnone
    refine neat_reverse_cons.2 ⟨h, everywhere_neatText hdata, ?_, ?_⟩
    · intro _ m hm hkind
      cases m with
      | text before =>
          obtain ⟨rest, hrest⟩ := List.head?_eq_some_iff.1 hm
          exact hnone before rest hrest
      | _ => cases hkind
    · rintro hnil _ ⟨⟩
      exact hopening hnil

/-- The sequence of an element that closes is neat, at its end too. -/
theorem Neat.trimLastText {nodes : Forest} (h : Neat nodes.reverse) :
    Neat (trimLastText nodes).reverse ∧
      ∀ n ∈ (Html.trimLastText nodes).reverse.getLast?, ∀ data ∈ n.data?,
        ∀ c ∈ data.toList.getLast?, isBlank c = false := by
  unfold Html.trimLastText
  split
  · rename_i data rest
    obtain ⟨hrest, hnode, hnext, hfirst⟩ := neat_reverse_cons.1 h
    have hdata : NeatText data := (everywhere_singleton.1 hnode).1
    refine ⟨neat_reverse_cons.2 ⟨hrest, everywhere_neatText hdata.trimEnd, hnext, ?_⟩, ?_⟩
    · rintro hnil _ ⟨⟩ c hc
      rw [hdata.head?_trimEnd] at hc
      exact hfirst hnil data rfl c hc
    · rw [List.getLast?_reverse]
      rintro _ ⟨⟩ _ ⟨⟩ c hc
      rw [Text.trimEnd, String.toList_ofList] at hc
      exact Text.not_isBlank_getLast?_dropBlanksAtEnd hc
  · rename_i hnone
    refine ⟨h, ?_⟩
    rw [List.getLast?_reverse]
    intro n hn data hdata
    cases n with
    | text before =>
        obtain ⟨rest, hrest⟩ := List.head?_eq_some_iff.1 hn
        exact absurd hrest (hnone before rest)
    | _ => cases hdata

namespace Builder

/-! ## The invariant -/

/-- The finished nodes are neat, and so is what the open elements hold so far. -/
structure NeatParts (b : Builder) : Prop where
  roots : Neat b.roots.reverse
  stack : ∀ e ∈ b.stack, Neat e.children.reverse ∧ voidElements.contains e.name = false

/-- The flag is up as long as there is nothing in the innermost open element. -/
structure IsNeat (b : Builder) : Prop extends NeatParts b where
  atStart : b.atStart = true ↔ b.container = []

variable {b : Builder}

theorem NeatParts.container (h : b.NeatParts) : Neat b.container.reverse := by
  unfold Builder.container
  split
  · exact h.roots
  · rename_i innermost outer hstack
    exact (h.stack innermost (hstack ▸ List.mem_cons_self)).1

theorem NeatParts.modifyContainer {f : Forest → Forest} (h : b.NeatParts)
    (hf : Neat (f b.container).reverse) : (b.modifyContainer f).NeatParts := by
  obtain ⟨roots, stack, atStart, pending⟩ := b
  cases stack with
  | nil => exact ⟨hf, by simp [Builder.modifyContainer]⟩
  | cons innermost outer =>
      refine ⟨h.roots, ?_⟩
      intro e he
      rcases List.mem_cons.1 he with rfl | he
      · exact ⟨hf, (h.stack innermost List.mem_cons_self).2⟩
      · exact h.stack e (List.mem_cons_of_mem _ he)

/-- Behind an element the flag is down. -/
theorem NeatParts.push_element (h : b.NeatParts) {name : String} {attrs : Attributes}
    {children : Forest} (hnode : NeatNode (.element name attrs children))
    (hchildren : Everywhere NeatNode children) :
    (b.push [.element name attrs children]).IsNeat := by
  have hparts : { b with atStart := false }.NeatParts := ⟨h.roots, h.stack⟩
  have hevery : Everywhere NeatNode [.element name attrs children] :=
    everywhere_singleton.2 ⟨hnode, by simpa [Node.sequences] using hchildren⟩
  rw [push_of_ne (by simp)]
  refine ⟨hparts.modifyContainer ?_, by simp⟩
  exact neat_reverse_cons.2 ⟨h.container, hevery, by simp [Node.kind], by simp [Node.data?]⟩

theorem IsNeat.addText (h : b.IsNeat) (data : String) : (b.addText data).IsNeat := by
  cases hblank : isBlankText data with
  | true =>
      rw [Builder.addText, if_pos hblank]
      exact h
  | false =>
      have hparts : { b with atStart := false }.NeatParts := ⟨h.roots, h.stack⟩
      rw [addText_of_not_blank hblank]
      refine ⟨hparts.modifyContainer ?_, ?_⟩
      · refine h.container.appendText (neatText_settled hblank b.atStart) ?_
        intro hnil c hc
        rw [String.toList_ofList, if_pos (h.atStart.2 hnil)] at hc
        exact Text.not_isBlank_head?_dropBlanks hc
      · rw [atStart_modifyContainer, container_modifyContainer]
        simp only [Bool.false_eq_true, false_iff]
        unfold Html.appendText
        split <;> simp

theorem IsNeat.flush (h : b.IsNeat) : b.flush.IsNeat :=
  have hadded := h.addText b.pending
  ⟨⟨hadded.roots, hadded.stack⟩, hadded.atStart⟩

theorem IsNeat.openElement (h : b.IsNeat) {name : String}
    (hname : voidElements.contains name = false) (attrs : Attributes) :
    (b.openElement name attrs).IsNeat := by
  refine ⟨⟨h.roots, ?_⟩, iff_of_true rfl rfl⟩
  intro e he
  rcases List.mem_cons.1 he with rfl | he
  · exact ⟨neat_nil, hname⟩
  · exact h.stack e he

theorem IsNeat.closeElement {c : Builder} {name : String} (h : b.IsNeat)
    (hclose : b.closeElement name = .ok c) : c.IsNeat := by
  obtain ⟨attrs, children, outer, hstack, rfl⟩ := closeElement_eq_ok.1 hclose
  obtain ⟨hchildren, hname⟩ := h.stack _ (hstack ▸ List.mem_cons_self)
  have houter : { b with stack := outer }.NeatParts :=
    ⟨h.roots, fun e he => h.stack e (hstack ▸ List.mem_cons_of_mem _ he)⟩
  obtain ⟨hneat, hending⟩ := hchildren.trimLastText
  refine houter.push_element ⟨hneat.sequence, hending, ?_⟩ hneat.everywhere
  rw [hname]
  simp

theorem IsNeat.step {b' : Builder} {token : Token} (h : b.IsNeat)
    (hstep : b.step token = .ok b') : b'.IsNeat := by
  cases token with
  | text data =>
      cases hstep
      exact ⟨⟨h.roots, h.stack⟩, h.atStart⟩
  | startTag name attrs selfClosing =>
      simp only [Builder.step] at hstep
      split at hstep
      · -- A tag that nothing can follow inside never leaves its element open.
        have hclose := @closeElement_push [] rfl name attrs b.flush
        rw [push_nil, hstep] at hclose
        cases hclose
        exact h.flush.toNeatParts.push_element ⟨neat_nil.sequence, by simp, fun _ => rfl⟩
          everywhere_nil
      · rename_i hopen
        simp only [Bool.or_eq_true, not_or, Bool.not_eq_true] at hopen
        cases hstep
        exact h.flush.openElement hopen.2 attrs
  | endTag name => exact h.flush.closeElement hstep
  | comment | doctype | fault =>
      cases hstep
      exact h.flush

end Builder

/-- Whatever the tokens are that can be parsed, their forest is neat: texts and elements only,
    with a word in every text and no blanks in it but spaces, texts that are apart, no blanks at
    the beginning of a sequence or at the end of an element, and nothing in void elements. -/
theorem neat_of_ofTokens {tokens : List Token} {nodes : Forest} (h : ofTokens tokens = .ok nodes) :
    Neat nodes := by
  obtain ⟨b, hrun, hstack, rfl⟩ := exists_of_ofTokens h
  have hstart : Builder.start.IsNeat :=
    ⟨⟨neat_nil, by simp [Builder.start]⟩, iff_of_true rfl rfl⟩
  have hend : b.IsNeat := Builder.run_keeps (fun _ _ _ _ hb hstep => hb.step hstep) hstart hrun
  exact hend.flush.roots

/-- A paragraph between texts, with blanks around everything and a comment in a text. -/
def blankedTokens : List Token :=
  [.text " \n one", .comment, .text " two", .startTag "p" ∅ false, .text "\t", .comment,
    .text " a \n", .startTag "br" ∅ false, .text " b", .text "\n ", .endTag "p", .text "\n"]

theorem neat_of_ofTokens_blankedTokens :
    ∃ nodes, ofTokens blankedTokens = .ok nodes ∧ Neat nodes ∧
      nodes = [.text "one two", .element "p" ∅ [.text "a ", .element "br" ∅ [], .text " b"]] := by
  have hok : ofTokens blankedTokens =
      .ok [.text "one two", .element "p" ∅ [.text "a ", .element "br" ∅ [], .text " b"]] := rfl
  exact ⟨_, hok, neat_of_ofTokens hok, rfl⟩

end ArticleTree.Html
