import ArticleTree.Html.Parse
import ArticleTree.Proofs.Node.Live

/-! # The nodes of parsed HTML

A builder only makes texts, and elements with the names and attributes of the start tags. So
parsed HTML has a property everywhere if all texts and all such elements have it. The finished
nodes of a builder are its roots and the children of its open elements; the invariant speaks of
these.
-/

namespace ArticleTree.Html

/-! ## Runs of a builder -/

/-- What every step keeps holds of the builder that has read the tokens. -/
theorem Builder.run_keeps {P : Builder → Prop} {tokens : List Token}
    (step : ∀ b token b', token ∈ tokens → P b → b.step token = .ok b' → P b') {b b' : Builder}
    (h : P b) (hrun : tokens.foldlM Builder.step b = .ok b') : P b' := by
  induction tokens generalizing b with
  | nil =>
      cases hrun
      exact h
  | cons token tokens ih =>
      rw [List.foldlM_cons] at hrun
      cases hstep : b.step token with
      | error unbalanced => simp [hstep, bind, Except.bind] at hrun
      | ok next =>
          simp only [hstep, bind, Except.bind] at hrun
          have hnext : P next := step b token next List.mem_cons_self h hstep
          exact ih (fun b t b' ht => step b t b' (List.mem_cons_of_mem _ ht)) hnext hrun

/-- A forest is what the builder has at the end, if nothing is open then. -/
theorem exists_of_ofTokens {tokens : List Token} {nodes : Forest}
    (h : ofTokens tokens = .ok nodes) :
    ∃ b, tokens.foldlM Builder.step Builder.start = .ok b ∧ b.stack = [] ∧
      nodes = b.flush.roots.reverse := by
  have hforest := ofTokens_eq_ok.1 h
  unfold forestOf at hforest
  cases hrun : tokens.foldlM Builder.step Builder.start with
  | error unbalanced => simp [hrun, bind, Except.bind] at hforest
  | ok b =>
      simp only [hrun, bind, Except.bind, Builder.finish] at hforest
      split at hforest
      · rename_i hstack
        cases hforest
        exact ⟨b, rfl, hstack, rfl⟩
      · cases hforest

/-! ## What all nodes have in common -/

variable {p : Node → Prop} {tokens : List Token}

/-- All texts have the property, and all elements that the tokens can begin. -/
structure OfTokens (tokens : List Token) (p : Node → Prop) : Prop where
  text : ∀ data, p (.text data)
  element : ∀ name attrs selfClosing, .startTag name attrs selfClosing ∈ tokens →
    ∀ children, p (.element name attrs children)

/-- All texts and all elements have the property. -/
structure OfMarkup (p : Node → Prop) : Prop where
  text : ∀ data, p (.text data)
  element : ∀ name attrs children, p (.element name attrs children)

theorem OfMarkup.ofTokens (hp : OfMarkup p) (tokens : List Token) : OfTokens tokens p :=
  ⟨hp.text, fun name attrs _ _ => hp.element name attrs⟩

theorem everywhere_text (hp : OfTokens tokens p) (data : String) : Everywhere p [.text data] :=
  everywhere_singleton.2 ⟨hp.text data, by simp [Node.sequences]⟩

theorem everywhere_appendText (hp : OfTokens tokens p) (data : String) {nodes : Forest}
    (h : Everywhere p nodes) : Everywhere p (appendText data nodes) := by
  unfold appendText
  split
  · rename_i before rest
    exact everywhere_cons.2 ⟨everywhere_text hp _, (everywhere_cons.1 h).2⟩
  · exact everywhere_cons.2 ⟨everywhere_text hp _, h⟩

theorem everywhere_trimLastText (hp : OfTokens tokens p) {nodes : Forest} (h : Everywhere p nodes) :
    Everywhere p (trimLastText nodes) := by
  unfold trimLastText
  split
  · exact everywhere_cons.2 ⟨everywhere_text hp _, (everywhere_cons.1 h).2⟩
  · exact h

namespace Builder

/-- The finished nodes have the property everywhere, and so will the elements that are open. -/
structure Holds (p : Node → Prop) (b : Builder) : Prop where
  roots : Everywhere p b.roots
  stack : ∀ e ∈ b.stack, Everywhere p e.children ∧
    ∀ children, p (.element e.name e.attrs children)

theorem Holds.modifyContainer {b : Builder} {f : Forest → Forest} (h : Holds p b)
    (hf : ∀ nodes, Everywhere p nodes → Everywhere p (f nodes)) :
    Holds p (b.modifyContainer f) := by
  unfold Builder.modifyContainer
  split
  · exact ⟨hf _ h.roots, h.stack⟩
  · rename_i innermost outer hstack
    refine ⟨h.roots, ?_⟩
    intro e he
    rcases List.mem_cons.1 he with rfl | he
    · obtain ⟨hchildren, helement⟩ := h.stack innermost (hstack ▸ List.mem_cons_self)
      exact ⟨hf _ hchildren, helement⟩
    · exact h.stack e (hstack ▸ List.mem_cons_of_mem _ he)

theorem Holds.addText (hp : OfTokens tokens p) {b : Builder} (h : Holds p b) (data : String) :
    Holds p (b.addText data) := by
  unfold Builder.addText
  split
  · exact h
  · exact Holds.modifyContainer ⟨h.roots, h.stack⟩ fun _ => everywhere_appendText hp _

theorem Holds.flush (hp : OfTokens tokens p) {b : Builder} (h : Holds p b) : Holds p b.flush :=
  have := h.addText hp b.pending
  ⟨this.roots, this.stack⟩

theorem Holds.openElement {b : Builder} (h : Holds p b) {name : String} {attrs : Attributes}
    (helement : ∀ children, p (.element name attrs children)) :
    Holds p (b.openElement name attrs) := by
  refine ⟨h.roots, ?_⟩
  intro e he
  rcases List.mem_cons.1 he with rfl | he
  · exact ⟨everywhere_nil, helement⟩
  · exact h.stack e he

theorem Holds.closeElement (hp : OfTokens tokens p) {b b' : Builder} (h : Holds p b)
    {name : String} (hclose : b.closeElement name = .ok b') : Holds p b' := by
  unfold Builder.closeElement at hclose
  split at hclose
  · cases hclose
  · rename_i innermost outer hstack
    split at hclose
    · rename_i hname
      subst hname
      cases hclose
      obtain ⟨hinner, helement⟩ := h.stack innermost (hstack ▸ List.mem_cons_self)
      have houter : ∀ e ∈ outer, Everywhere p e.children ∧
          ∀ children, p (.element e.name e.attrs children) :=
        fun e he => h.stack e (hstack ▸ List.mem_cons_of_mem _ he)
      refine Holds.modifyContainer ⟨h.roots, houter⟩ ?_
      intro nodes hnodes
      refine everywhere_cons.2 ⟨everywhere_singleton.2 ⟨helement _, ?_⟩, hnodes⟩
      intro s hs
      obtain rfl := List.mem_singleton.1 hs
      exact everywhere_reverse.2 (everywhere_trimLastText hp hinner)
    · cases hclose

theorem Holds.step (hp : OfTokens tokens p) {b b' : Builder} {token : Token}
    (htoken : token ∈ tokens) (h : Holds p b) (hstep : b.step token = .ok b') : Holds p b' := by
  cases token with
  | text data =>
      cases hstep
      exact ⟨h.roots, h.stack⟩
  | startTag name attrs selfClosing =>
      simp only [Builder.step] at hstep
      have hopen := (h.flush hp).openElement (hp.element name attrs selfClosing htoken)
      split at hstep
      · exact hopen.closeElement hp hstep
      · cases hstep
        exact hopen
  | endTag name => exact (h.flush hp).closeElement hp hstep
  | comment | doctype | fault =>
      cases hstep
      exact h.flush hp

end Builder

/-- Parsed tokens give texts and the elements of the start tags. -/
theorem everywhere_ofTokens (hp : OfTokens tokens p) {nodes : Forest}
    (h : ofTokens tokens = .ok nodes) : Everywhere p nodes := by
  obtain ⟨b, hrun, -, rfl⟩ := exists_of_ofTokens h
  have hstart : Builder.Holds p Builder.start := ⟨everywhere_nil, by simp [Builder.start]⟩
  have hend : Builder.Holds p b :=
    Builder.run_keeps (fun _ _ _ htoken hb hstep => hb.step hp htoken hstep) hstart hrun
  exact everywhere_reverse.2 (hend.flush hp).roots

/-- Parsed HTML consists of texts and elements. -/
theorem everywhere_parse (hp : OfMarkup p) {html : String} {nodes : Forest}
    (h : parse html = .ok nodes) : Everywhere p nodes :=
  everywhere_ofTokens (hp.ofTokens _) h

end ArticleTree.Html
