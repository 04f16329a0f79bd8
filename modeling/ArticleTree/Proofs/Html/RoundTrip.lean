import ArticleTree.Proofs.Html.Writing
import ArticleTree.Proofs.Node.Live

/-! # Parsing what a forest is written as

A forest in normal form is written as tokens, and parsing the tokens gives it back. The builder
has nothing to trim then: every text arrives as one chunk, with the blanks that it keeps.
-/

namespace ArticleTree.Html

open Text (isBlank Spaced solid dropBlanks)

/-! ## Written forests -/

mutual

/-- The tokens that a text or an element is written as. -/
def tokensOfNode : Node → List Token
  | .text data => [.text data]
  | .element name attrs children =>
      .startTag name attrs false ::
        if voidElements.contains name then [] else tokensOf children ++ [.endTag name]
  | _ => []

def tokensOf : Forest → List Token
  | [] => []
  | n :: rest => tokensOfNode n ++ tokensOf rest

end

/-! ## Normal forests -/

/-- Not all of the text is blank, its blanks are spaces, and no two of them stand in a row. -/
structure NormalText (data : String) : Prop where
  word : ∃ c ∈ data.toList, isBlank c = false
  spaced : Spaced data.toList

instance (data : String) : Decidable (NormalText data) :=
  decidable_of_iff (Text.isBlankText data = false ∧ Spaced data.toList)
    ⟨fun h => ⟨by simpa [Text.isBlankText] using h.1, h.2⟩,
      fun h => ⟨by simpa [Text.isBlankText] using h.word, h.spaced⟩⟩

/-- No two texts are neighbours, and one that comes first has no space in front. -/
structure NormalSequence (nodes : Forest) : Prop where
  apart : nodes.IsChain fun a b => ¬ (a.kind = .text ∧ b.kind = .text)
  opening : ∀ n ∈ nodes.head?, ∀ data ∈ n.data?, data.toList.head? ≠ some ' '

instance (nodes : Forest) : Decidable (NormalSequence nodes) :=
  decidable_of_iff
    ((nodes.IsChain fun a b => ¬ (a.kind = .text ∧ b.kind = .text)) ∧
      ∀ n ∈ nodes.head?, ∀ data ∈ n.data?, data.toList.head? ≠ some ' ')
    ⟨fun h => ⟨h.1, h.2⟩, fun h => ⟨h.apart, h.opening⟩⟩

/-- A normal text, or an element with normal children. A text that comes last in an element has
    no space behind, and an element that cannot have children has none. -/
def NormalNode : Node → Prop
  | .text data => NormalText data
  | .element name _ children =>
      NormalSequence children ∧
        (∀ n ∈ children.getLast?, ∀ data ∈ n.data?, data.toList.getLast? ≠ some ' ') ∧
        (voidElements.contains name = true → children = [])
  | _ => False

/-- The forest looks like one that was parsed. -/
structure Normal (nodes : Forest) : Prop where
  everywhere : Everywhere NormalNode nodes
  sequence : NormalSequence nodes

theorem NormalText.solid_ne_nil {data : String} (h : NormalText data) :
    solid data.toList ≠ [] := by
  obtain ⟨c, hc, hblank⟩ := h.word
  exact List.ne_nil_of_mem (List.mem_filter.2 ⟨hc, by simp [hblank]⟩)

theorem NormalText.settled {data : String} (h : NormalText data) :
    settled data = data.toList := by
  have hblank : Text.isBlankText data = false := by
    rw [Bool.eq_false_iff, Ne, Text.isBlankText_iff]
    exact h.solid_ne_nil
  simp [Html.settled, hblank, Text.collapseFrom_of_spaced h.spaced]

theorem NormalText.dropBlanks {data : String} (h : NormalText data)
    (hspace : data.toList.head? ≠ some ' ') : dropBlanks data.toList = data.toList := by
  apply Text.dropBlanks_eq_self
  intro c hc
  by_contra hblank
  obtain rfl := h.spaced.space c (List.mem_of_mem_head? hc) (by simpa using hblank)
  exact hspace hc

theorem NormalText.trimEnd {data : String} (h : NormalText data)
    (hspace : data.toList.getLast? ≠ some ' ') : Text.trimEnd data = data := by
  have hkept : Text.dropBlanksAtEnd data.toList = data.toList := by
    apply Text.dropBlanksAtEnd_eq_self
    intro c hc
    by_contra hblank
    obtain rfl := h.spaced.space c (List.mem_of_mem_getLast? hc) (by simpa using hblank)
    exact hspace hc
  rw [Text.trimEnd, hkept, String.ofList_toList]

/-! ## Reading a written forest -/

namespace Builder

/-- Read tokens, with nothing pending at the end. -/
def readAll (tokens : List Token) (b : Builder) : Except Unbalanced Builder :=
  (tokens.foldlM Builder.step b).map flush

theorem readAll_append (xs ys : List Token) (b : Builder) :
    b.readAll (xs ++ ys) = (xs.foldlM Builder.step b) >>= readAll ys := by
  rw [readAll, List.foldlM_append]
  cases xs.foldlM Builder.step b <;> rfl

theorem flush_flush (b : Builder) : b.flush.flush = b.flush := flush_of_pending rfl

/-- Tokens that begin with no text do not look at what is pending before it is written. -/
theorem readAll_flush {nodes : Forest} (h : ∀ n ∈ nodes.head?, n.kind = .element) (b : Builder) :
    b.flush.readAll (tokensOf nodes) = b.readAll (tokensOf nodes) := by
  cases nodes with
  | nil =>
      change Except.ok b.flush.flush = Except.ok b.flush
      rw [flush_flush]
  | cons n rest =>
      cases n with
      | element name attrs children =>
          simp only [readAll, tokensOf, tokensOfNode, List.cons_append, List.foldlM_cons, step,
            flush_flush]
      | _ => cases h _ rfl

theorem flush_normalText {b : Builder} (hpending : b.pending = "") (hb : b.Fresh)
    {data : String} (hdata : NormalText data)
    (hspace : b.atStart = true → data.toList.head? ≠ some ' ') :
    { b with pending := b.pending ++ data }.flush = b.push [.text data] := by
  have hhold : { b with pending := b.pending ++ data } = b.hold [] data := by
    rw [hold, write_nil, hpending, String.empty_append]
  have hstart : (if b.atStart then dropBlanks data.toList else data.toList) = data.toList := by
    split
    · rename_i hatStart
      exact hdata.dropBlanks (hspace hatStart)
    · rfl
  have hne : data.toList ≠ [] := by
    rintro hnil
    exact hdata.solid_ne_nil (by rw [hnil]; rfl)
  rw [hhold, flush_hold hb worded_nil, List.nil_append, hdata.settled, hold, write, hstart,
    put_of_ne hne, String.ofList_toList, ← hpending, ← pending_push b [.text data]]

/-- An element whose children are read as they are is read as it is. -/
theorem foldlM_element {b : Builder} (hpending : b.pending = "") {name : String}
    {attrs : Attributes} {children : Forest}
    (hvoid : voidElements.contains name = true → children = [])
    (htrim : trimLastText children.reverse = children.reverse)
    (hinside : (b.openElement name attrs).readAll (tokensOf children) =
      .ok ((b.openElement name attrs).push children)) :
    (tokensOfNode (.element name attrs children)).foldlM Builder.step b =
      .ok (b.push [.element name attrs children]) := by
  have hclose := closeElement_push htrim name attrs b
  rw [tokensOfNode, List.foldlM_cons, step, flush_of_pending hpending, Bool.false_or]
  cases hname : voidElements.contains name with
  | true =>
      obtain rfl := hvoid hname
      rw [push_nil] at hclose
      simp only [if_true, hclose]
      rfl
  | false =>
      simp only [Bool.false_eq_true, if_false]
      change (tokensOf children ++ [Token.endTag name]).foldlM Builder.step _ = _
      rw [List.foldlM_append]
      unfold readAll at hinside
      cases hread : (tokensOf children).foldlM Builder.step (b.openElement name attrs) with
      | error unbalanced =>
          rw [hread] at hinside
          cases hinside
      | ok inner =>
          rw [hread] at hinside
          have hflush : inner.flush = (b.openElement name attrs).push children := by
            simpa [Except.map] using hinside
          change inner.step (.endTag name) >>= pure = _
          rw [bind_pure, step, hflush, hclose]

theorem kind_head?_of_apart {data : String} {rest : Forest}
    (h : Everywhere NormalNode rest)
    (hapart : (Node.text data :: rest).IsChain fun a b => ¬ (a.kind = .text ∧ b.kind = .text)) :
    ∀ n ∈ rest.head?, n.kind = .element := by
  intro n hn
  cases rest with
  | nil => cases hn
  | cons m rest =>
      cases hn
      have hnode := h n (.among List.mem_cons_self)
      cases n with
      | text => exact absurd ⟨rfl, rfl⟩ (List.isChain_cons_cons.1 hapart).1
      | element => rfl
      | _ => cases hnode

theorem trimLastText_of_normal {children : Forest} (h : Everywhere NormalNode children)
    (hending : ∀ n ∈ children.getLast?, ∀ data ∈ n.data?, data.toList.getLast? ≠ some ' ') :
    trimLastText children.reverse = children.reverse := by
  unfold trimLastText
  split
  · rename_i data rest hreverse
    have hlast : children.getLast? = some (.text data) := by
      rw [← List.head?_reverse, hreverse, List.head?_cons]
    have hdata : NormalText data := h _ (.among (List.mem_of_getLast? hlast))
    rw [hdata.trimEnd (hending _ hlast data rfl), hreverse]
  · rfl

/-- A builder reads the tokens of normal nodes as these nodes. -/
theorem readAll_tokensOf {nodes : Forest} (h : Everywhere NormalNode nodes)
    (hapart : nodes.IsChain fun a b => ¬ (a.kind = .text ∧ b.kind = .text)) {b : Builder}
    (hpending : b.pending = "")
    (htext : ∀ data, nodes.head? = some (.text data) →
      b.Fresh ∧ (b.atStart = true → data.toList.head? ≠ some ' ')) :
    b.readAll (tokensOf nodes) = .ok (b.push nodes) := by
  -- A text is only written when the next token comes, so that the builder in front of an element
  -- may still hold the text before it. `htext` says when a text may be read there.
  induction nodes using Node.weightAll_induction generalizing b with
  | step nodes ih =>
  cases nodes with
  | nil => exact congrArg Except.ok (flush_of_pending hpending)
  | cons n rest =>
      obtain ⟨hn, hrest⟩ := everywhere_cons.1 h
      obtain ⟨hnode, hbelow⟩ := everywhere_singleton.1 hn
      have hlighter := Node.weightAll_lt_cons n rest
      cases n with
      | text data =>
          obtain ⟨hfresh, hspace⟩ := htext data rfl
          have hnext := kind_head?_of_apart hrest hapart
          have hstep : b.readAll (tokensOf (.text data :: rest)) =
              { b with pending := b.pending ++ data }.readAll (tokensOf rest) := rfl
          rw [hstep, ← readAll_flush hnext, flush_normalText hpending hfresh hnode hspace,
            ih rest hlighter hrest hapart.of_cons (by simpa using hpending), push_push]
          · rfl
          · intro data' hdata'
            cases hnext _ hdata'
      | element name attrs children =>
          obtain ⟨hsequence, hending, hvoid⟩ := hnode
          have hown : children ∈ (Node.element name attrs children).sequences :=
            List.mem_singleton.2 rfl
          have hchildren := hbelow children hown
          have hinside : (b.openElement name attrs).readAll (tokensOf children) =
              .ok ((b.openElement name attrs).push children) := by
            refine ih children (Node.weightAll_lt_of_mem_sequences List.mem_cons_self hown)
              hchildren hsequence.apart hpending ?_
            intro data hdata
            refine ⟨?_, fun _ => hsequence.opening _ hdata data rfl⟩
            rintro before outer ⟨⟩
          have hread := foldlM_element hpending hvoid (trimLastText_of_normal hchildren hending)
            hinside
          rw [tokensOf, readAll_append, hread]
          change (b.push [.element name attrs children]).readAll (tokensOf rest) = _
          rw [ih rest hlighter hrest hapart.of_cons (by simpa using hpending), push_push]
          · rfl
          · intro data _
            refine ⟨?_, ?_⟩
            · intro before outer hcontainer
              rw [container_push] at hcontainer
              cases hcontainer
            · intro hstart
              rw [push_of_ne (by simp), atStart_modifyContainer] at hstart
              cases hstart
      | _ => cases hnode

end Builder

/-- Parsing the tokens that a normal forest is written as gives the forest back. -/
theorem ofTokens_tokensOf {nodes : Forest} (h : Normal nodes) :
    ofTokens (tokensOf nodes) = .ok nodes := by
  have hread : Builder.start.readAll (tokensOf nodes) = .ok (Builder.start.push nodes) := by
    refine Builder.readAll_tokensOf h.everywhere h.sequence.apart rfl ?_
    intro data hdata
    refine ⟨?_, fun _ => h.sequence.opening _ hdata data rfl⟩
    rintro before outer ⟨⟩
  have hforest : forestOf (tokensOf nodes) = .ok nodes := by
    unfold forestOf
    unfold Builder.readAll at hread
    cases hfold : (tokensOf nodes).foldlM Builder.step Builder.start with
    | error unbalanced =>
        rw [hfold] at hread
        cases hread
    | ok b =>
        rw [hfold] at hread
        have hflush : b.flush = Builder.start.push nodes := by simpa [Except.map] using hread
        have hfinish := Builder.finish_of_flush hflush (Builder.stack_push_eq_nil.2 rfl)
        rw [Builder.container_push, List.reverse_append, List.reverse_reverse] at hfinish
        exact hfinish
  exact ofTokens_eq_ok.2 hforest

/-- A paragraph with words around a line break and an element that begins with one. -/
def brokenParagraph : Forest :=
  [.text "Lead ", .element "p" (.ofList [("id", "a")])
    [.text "one ", .element "br" ∅ [], .text " two",
      .element "b" ∅ [.element "i" ∅ [], .text " x y"]], .text " end "]

theorem ofTokens_tokensOf_brokenParagraph :
    Normal brokenParagraph ∧ ofTokens (tokensOf brokenParagraph) = .ok brokenParagraph := by
  have hnormal : Normal brokenParagraph := by
    refine ⟨?_, by decide⟩
    simp only [brokenParagraph, everywhere_cons_cons, everywhere_singleton, NormalNode,
      Node.sequences, List.not_mem_nil, List.mem_singleton, forall_eq, false_imp_iff,
      implies_true, and_true, everywhere_nil]
    decide
  exact ⟨hnormal, ofTokens_tokensOf hnormal⟩

end ArticleTree.Html
