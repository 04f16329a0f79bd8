import ArticleTree.Html.Parse

/-! # Balanced tags

The tags of a token list are a word of brackets, and an element with its descendants is a pair
of them around what stands between. Parsing accepts exactly the words that the bracket trees
write, and the elements that it gives are that tree.

The bracket machine below keeps the outline of a builder: what is left of its nodes if texts do
not count. A builder and its outline take the same steps, so the language and the tree need only
be settled for the machine.
-/

namespace ArticleTree.Html

/-! ## Bracket trees -/

inductive Bracket where
  | opening (name : String) (attrs : Attributes)
  | closing (name : String)

/-- The brackets of a token. A start tag that nothing can follow inside is a pair of them. -/
def Token.brackets : Token → List Bracket
  | .startTag name attrs selfClosing =>
      if selfClosing || voidElements.contains name then [.opening name attrs, .closing name]
      else [.opening name attrs]
  | .endTag name => [.closing name]
  | .text _ | .comment | .doctype | .fault => []

def brackets (tokens : List Token) : List Bracket :=
  tokens.flatMap Token.brackets

/-- An element without its texts. -/
inductive Shape where
  | element (name : String) (attrs : Attributes) (children : List Shape)

mutual

/-- The pair of brackets of an element, with what it holds between. -/
def Shape.word : Shape → List Bracket
  | .element name attrs children => .opening name attrs :: (wordOf children ++ [.closing name])

/-- The words of several elements, one after the other. -/
def wordOf : List Shape → List Bracket
  | [] => []
  | shape :: shapes => shape.word ++ wordOf shapes

end

/-- Every closing bracket has the name of the innermost open one, and none stays open. -/
def WellBracketed (word : List Bracket) : Prop :=
  ∃ shapes, wordOf shapes = word

mutual

/-- The outline of an element. Other nodes have none. -/
def shape? : Node → Option Shape
  | .element name attrs children => some (.element name attrs (shapesOf children))
  | _ => none

/-- The outlines of the elements of a sequence. -/
def shapesOf : Forest → List Shape
  | [] => []
  | n :: rest => (shape? n).toList ++ shapesOf rest

end

theorem wordOf_append (xs ys : List Shape) : wordOf (xs ++ ys) = wordOf xs ++ wordOf ys := by
  induction xs with
  | nil => rfl
  | cons shape shapes ih => simp only [List.cons_append, wordOf, ih, List.append_assoc]

@[simp] theorem wordOf_singleton (shape : Shape) : wordOf [shape] = shape.word := by
  simp [wordOf]

theorem shapesOf_eq_filterMap (nodes : Forest) : shapesOf nodes = nodes.filterMap shape? := by
  induction nodes with
  | nil => rfl
  | cons n rest ih =>
      rw [shapesOf, ih, List.filterMap_cons]
      cases shape? n <;> rfl

theorem shapesOf_reverse (nodes : Forest) :
    shapesOf nodes.reverse = (shapesOf nodes).reverse := by
  simp only [shapesOf_eq_filterMap, List.filterMap_reverse]

theorem shapesOf_text (data : String) (nodes : Forest) :
    shapesOf (.text data :: nodes) = shapesOf nodes := rfl

theorem shapesOf_element (name : String) (attrs : Attributes) (children nodes : Forest) :
    shapesOf (.element name attrs children :: nodes) =
      .element name attrs (shapesOf children) :: shapesOf nodes := rfl

theorem shapesOf_appendText (data : String) (nodes : Forest) :
    shapesOf (appendText data nodes) = shapesOf nodes := by
  unfold appendText
  split <;> simp only [shapesOf_text]

theorem shapesOf_trimLastText (nodes : Forest) :
    shapesOf (trimLastText nodes) = shapesOf nodes := by
  unfold trimLastText
  split <;> simp only [shapesOf_text]

/-! ## The bracket machine -/

/-- An open bracket, with the trees that were closed inside it, the latest first. -/
structure OpenBracket where
  name : String
  attrs : Attributes
  inside : List Shape

structure Outline where
  /-- The trees outside of all open brackets, the latest first. -/
  roots : List Shape
  /-- The open brackets, the innermost first. -/
  stack : List OpenBracket

namespace Outline

def start : Outline := ⟨[], []⟩

/-- Put trees, in order, behind those that stand where the machine is. -/
def put (shapes : List Shape) (o : Outline) : Outline :=
  match o.stack with
  | [] => { o with roots := shapes.reverse ++ o.roots }
  | innermost :: outer =>
      { o with stack := { innermost with inside := shapes.reverse ++ innermost.inside } :: outer }

/-- Read a bracket. A closing one must have the name of the innermost open one. -/
def step (o : Outline) : Bracket → Option Outline
  | .opening name attrs => some { o with stack := ⟨name, attrs, []⟩ :: o.stack }
  | .closing name =>
      match o.stack with
      | [] => none
      | innermost :: outer =>
          if innermost.name = name then
            some (put [.element name innermost.attrs innermost.inside.reverse]
              { o with stack := outer })
          else none

def run (o : Outline) : List Bracket → Option Outline
  | [] => some o
  | b :: word => (o.step b).bind fun next => next.run word

theorem run_append (o : Outline) (xs ys : List Bracket) :
    o.run (xs ++ ys) = (o.run xs).bind fun next => next.run ys := by
  induction xs generalizing o with
  | nil => rfl
  | cons b word ih =>
      simp only [List.cons_append, run, Option.bind_assoc, ih]

theorem put_nil (o : Outline) : o.put [] = o := by
  obtain ⟨roots, stack⟩ := o
  cases stack <;> rfl

theorem put_put (xs ys : List Shape) (o : Outline) : (o.put xs).put ys = o.put (xs ++ ys) := by
  obtain ⟨roots, stack⟩ := o
  cases stack <;> simp [put]

/-! ### What the machine accepts -/

mutual

theorem run_word (shape : Shape) (o : Outline) : o.run shape.word = some (o.put [shape]) := by
  cases shape with
  | element name attrs children =>
      have hinside := run_wordOf children { o with stack := ⟨name, attrs, []⟩ :: o.stack }
      rw [Shape.word, run, step, Option.bind_some, run_append, hinside, Option.bind_some]
      simp [run, step, put]

/-- The word of a tree puts the tree where the machine is. -/
theorem run_wordOf (shapes : List Shape) (o : Outline) :
    o.run (wordOf shapes) = some (o.put shapes) := by
  cases shapes with
  | nil =>
      obtain ⟨roots, stack⟩ := o
      cases stack <;> rfl
  | cons shape shapes =>
      rw [wordOf, run_append, run_word shape, Option.bind_some, run_wordOf shapes, put_put]
      rfl

end

/-- The brackets of what is inside the open ones. -/
def openWord : List OpenBracket → List Bracket
  | [] => []
  | innermost :: outer =>
      openWord outer ++ .opening innermost.name innermost.attrs :: wordOf innermost.inside.reverse

/-- The word that the machine has read. -/
def word (o : Outline) : List Bracket :=
  wordOf o.roots.reverse ++ openWord o.stack

theorem word_put (shapes : List Shape) (o : Outline) :
    (o.put shapes).word = o.word ++ wordOf shapes := by
  obtain ⟨roots, stack⟩ := o
  cases stack <;> simp [put, word, openWord, wordOf_append]

/-- A step adds its bracket to the word. -/
theorem word_step {o o' : Outline} {b : Bracket} (h : o.step b = some o') :
    o'.word = o.word ++ [b] := by
  obtain ⟨roots, stack⟩ := o
  cases b with
  | opening name attrs =>
      cases h
      simp [word, openWord, wordOf]
  | closing name =>
      cases stack with
      | nil => cases h
      | cons innermost outer =>
          simp only [step] at h
          split at h
          · rename_i hname
            cases h
            rw [word_put]
            simp [word, openWord, Shape.word, hname]
          · cases h

theorem word_run {o o' : Outline} {word : List Bracket} (h : o.run word = some o') :
    o'.word = o.word ++ word := by
  induction word generalizing o with
  | nil =>
      cases h
      simp
  | cons b word ih =>
      obtain ⟨next, hstep, hrun⟩ := Option.bind_eq_some_iff.1 h
      rw [ih hrun, word_step hstep, List.append_assoc, List.singleton_append]

/-- From the start to no open bracket, the machine reads the words of the trees that it then
    has, and no others. -/
theorem run_start_eq_some_iff {word : List Bracket} {roots : List Shape} :
    start.run word = some ⟨roots, []⟩ ↔ wordOf roots.reverse = word := by
  constructor
  · intro h
    simpa [Outline.word, openWord, start, wordOf] using word_run h
  · rintro rfl
    simp [run_wordOf, put, start]

end Outline

/-! ## The outline of a builder -/

namespace Builder

/-- What is left of a builder if texts do not count. -/
def outline (b : Builder) : Outline where
  roots := shapesOf b.roots
  stack := b.stack.map fun e => ⟨e.name, e.attrs, shapesOf e.children⟩

theorem outline_modifyContainer {b : Builder} {f : Forest → Forest} {shapes : List Shape}
    (h : ∀ nodes, shapesOf (f nodes) = shapes.reverse ++ shapesOf nodes) :
    (b.modifyContainer f).outline = b.outline.put shapes := by
  obtain ⟨roots, stack, atStart, pending⟩ := b
  cases stack <;> simp [modifyContainer, outline, Outline.put, h]

@[simp] theorem outline_addText (data : String) (b : Builder) :
    (b.addText data).outline = b.outline := by
  unfold addText
  split
  · rfl
  · rw [@outline_modifyContainer _ _ [] fun nodes => shapesOf_appendText _ nodes,
      Outline.put_nil]
    rfl

@[simp] theorem outline_flush (b : Builder) : b.flush.outline = b.outline :=
  outline_addText b.pending b

theorem step_opening_outline (name : String) (attrs : Attributes) (b : Builder) :
    b.outline.step (.opening name attrs) = some (b.openElement name attrs).outline := rfl

theorem step_closing_outline (name : String) (b : Builder) :
    b.outline.step (.closing name) = (b.closeElement name).toOption.map outline := by
  obtain ⟨roots, stack, atStart, pending⟩ := b
  cases stack with
  | nil => rfl
  | cons innermost outer =>
      by_cases hname : innermost.name = name
      · have hput : (modifyContainer
            (.element name innermost.attrs (trimLastText innermost.children).reverse :: ·)
            ⟨roots, outer, false, pending⟩).outline =
              (outline ⟨roots, outer, false, pending⟩).put
                [.element name innermost.attrs (shapesOf innermost.children).reverse] := by
          refine outline_modifyContainer fun nodes => ?_
          rw [shapesOf_element, shapesOf_reverse, shapesOf_trimLastText]
          rfl
        simp only [closeElement, hname, if_true, Except.toOption, Option.map_some, hput]
        simp only [outline, List.map_cons, Outline.step, hname, if_true]
      · simp [closeElement, hname, Except.toOption, Outline.step, outline]

/-- A builder and its outline take the same steps. -/
theorem run_outline (b : Builder) (token : Token) :
    b.outline.run token.brackets = (b.step token).toOption.map outline := by
  rw [← outline_flush b]
  cases token with
  | startTag name attrs selfClosing =>
      simp only [step, Token.brackets]
      split
      · simp only [Outline.run, step_opening_outline, Option.bind_some, step_closing_outline,
          Option.bind_fun_some]
      · simp only [Outline.run, step_opening_outline, Option.bind_some, Except.toOption,
          Option.map_some]
  | endTag name =>
      simp only [step, Token.brackets, Outline.run, step_closing_outline, Option.bind_fun_some]
  | text data =>
      rw [outline_flush]
      rfl
  | comment | doctype | fault => rfl

theorem run_brackets_outline (b : Builder) (tokens : List Token) :
    b.outline.run (brackets tokens) = (tokens.foldlM Builder.step b).toOption.map outline := by
  induction tokens generalizing b with
  | nil => rfl
  | cons token tokens ih =>
      rw [brackets, List.flatMap_cons, Outline.run_append, run_outline, List.foldlM_cons]
      cases b.step token with
      | error unbalanced => rfl
      | ok next => exact ih next

end Builder

/-! ## What parsing accepts -/

/-- A builder that ends where nothing is open gives the nodes of the trees of its outline. -/
theorem run_start_brackets (tokens : List Token) :
    (∃ nodes, forestOf tokens = .ok nodes ∧
      Outline.start.run (brackets tokens) = some ⟨(shapesOf nodes).reverse, []⟩) ∨
    (∃ unbalanced, forestOf tokens = .error unbalanced) ∧
      ∀ roots, Outline.start.run (brackets tokens) ≠ some ⟨roots, []⟩ := by
  have hrun : Outline.start.run (brackets tokens) =
      (tokens.foldlM Builder.step Builder.start).toOption.map Builder.outline :=
    Builder.start.run_brackets_outline tokens
  unfold forestOf
  cases hfold : tokens.foldlM Builder.step Builder.start with
  | error unbalanced =>
      refine .inr ⟨⟨unbalanced, rfl⟩, ?_⟩
      intro roots
      simp [hrun, hfold, Except.toOption]
  | ok b =>
      rw [hfold] at hrun
      cases hstack : b.stack with
      | nil =>
          have hroots : shapesOf b.flush.roots = shapesOf b.roots :=
            congrArg Outline.roots b.outline_flush
          refine .inl ⟨b.flush.roots.reverse, ?_, ?_⟩
          · simp [Builder.finish, hstack, bind, Except.bind]
          · rw [hrun, shapesOf_reverse, List.reverse_reverse, hroots]
            simp [Except.toOption, Builder.outline, hstack]
      | cons innermost outer =>
          refine .inr ⟨⟨.unclosed innermost.name, ?_⟩, ?_⟩
          · simp [Builder.finish, hstack, bind, Except.bind]
          · intro roots
            simp [hrun, Except.toOption, Builder.outline, hstack]

/-- Parsing gives nodes exactly if the brackets are well nested, and is refused for its markup
    otherwise. The outline of the nodes is the tree of the brackets. -/
theorem wellBracketed_ofTokens (tokens : List Token) :
    ((∃ nodes, ofTokens tokens = .ok nodes) ↔ WellBracketed (brackets tokens)) ∧
      (¬ WellBracketed (brackets tokens) →
        ∃ message, ofTokens tokens = .error (.markup message)) ∧
      ∀ nodes shapes, ofTokens tokens = .ok nodes →
        (wordOf shapes = brackets tokens ↔ shapes = shapesOf nodes) := by
  rcases run_start_brackets tokens with ⟨nodes, hforest, hrun⟩ | ⟨⟨unbalanced, hforest⟩, hrun⟩
  · have hok : ofTokens tokens = .ok nodes := ofTokens_eq_ok.2 hforest
    have hword : wordOf (shapesOf nodes) = brackets tokens := by
      simpa using Outline.run_start_eq_some_iff.1 hrun
    have hbalanced : WellBracketed (brackets tokens) := ⟨_, hword⟩
    refine ⟨iff_of_true ⟨nodes, hok⟩ hbalanced, absurd hbalanced, ?_⟩
    intro nodes' shapes hnodes'
    cases hok.symm.trans hnodes'
    constructor
    · intro hshapes
      have hrun' : Outline.start.run (brackets tokens) = some ⟨shapes.reverse, []⟩ :=
        Outline.run_start_eq_some_iff.2 (by rwa [List.reverse_reverse])
      rw [hrun] at hrun'
      simpa [eq_comm] using hrun'
    · rintro rfl
      exact hword
  · have herror := ofTokens_of_error hforest
    have hbalanced : ¬ WellBracketed (brackets tokens) := by
      rintro ⟨shapes, hshapes⟩
      refine hrun shapes.reverse (Outline.run_start_eq_some_iff.2 ?_)
      rwa [List.reverse_reverse]
    refine ⟨iff_of_false ?_ hbalanced, fun _ => ⟨_, herror⟩, ?_⟩
    · rintro ⟨nodes, hok⟩
      cases herror.symm.trans hok
    · intro nodes shapes hok
      cases herror.symm.trans hok

def brokenLine : List Token :=
  [.startTag "p" (.ofList [("id", "a")]) false, .text "one", .startTag "br" ∅ false, .endTag "p"]

theorem wellBracketed_ofTokens_brokenLine :
    WellBracketed (brackets brokenLine) ∧ ∃ nodes, ofTokens brokenLine = .ok nodes := by
  have hbalanced : WellBracketed (brackets brokenLine) :=
    ⟨[.element "p" (.ofList [("id", "a")]) [.element "br" ∅ []]], rfl⟩
  exact ⟨hbalanced, (wellBracketed_ofTokens brokenLine).1.2 hbalanced⟩

end ArticleTree.Html
