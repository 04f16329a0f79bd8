import ArticleTree.Html.Parse
import ArticleTree.Proofs.Text.Blank

/-! # Text between tags

A builder that reads tokens without tags only changes the last child of the sequence that it is
in. `Builder.hold` is the builder that has read such tokens since the last tag: what it wrote
and what is still pending. Each token has one equation for it, so a stretch of text between two
tags is understood without looking at what a builder does with a chunk.
-/

namespace ArticleTree.Html

open Text (solid dropBlanks dropBlanksAtEnd collapseFrom isBlankText)

/-! ## What a chunk adds -/

/-- What a chunk of character data adds to a text. Blanks alone add nothing. -/
def settled (data : String) : List Char :=
  if isBlankText data then [] else collapseFrom false data.toList

theorem solid_settled (data : String) : solid (settled data) = solid data.toList := by
  unfold settled
  split
  · rename_i hblank
    rw [Text.isBlankText_iff.1 hblank]
    rfl
  · exact Text.solid_collapseFrom false data.toList

/-- The text is empty, or has more than blanks. -/
def Worded (text : List Char) : Prop :=
  solid text = [] → text = []

theorem worded_nil : Worded [] := fun _ => rfl

theorem worded_settled (data : String) : Worded (settled data) := by
  intro h
  rw [solid_settled, ← Text.isBlankText_iff] at h
  simp [settled, h]

theorem Worded.append {xs ys : List Char} (hx : Worded xs) (hy : Worded ys) :
    Worded (xs ++ ys) := by
  intro h
  rw [Text.solid_append, List.append_eq_nil_iff] at h
  rw [hx h.1, hy h.2, List.append_nil]

namespace Builder

/-! ## The sequence that a builder is in -/

/-- The sequence that the next child belongs to, the latest first. -/
def container (b : Builder) : Forest :=
  match b.stack with
  | [] => b.roots
  | innermost :: _ => innermost.children

theorem modifyContainer_congr {b : Builder} {f g : Forest → Forest}
    (h : f b.container = g b.container) : b.modifyContainer f = b.modifyContainer g := by
  obtain ⟨roots, stack, atStart, pending⟩ := b
  cases stack with
  | nil =>
      have hroots : f roots = g roots := h
      simp only [modifyContainer, hroots]
  | cons innermost outer =>
      have hchildren : f innermost.children = g innermost.children := h
      simp only [modifyContainer, hchildren]

theorem modifyContainer_modifyContainer (b : Builder) (f g : Forest → Forest) :
    (b.modifyContainer f).modifyContainer g = b.modifyContainer (g ∘ f) := by
  obtain ⟨roots, stack, atStart, pending⟩ := b
  cases stack <;> rfl

@[simp] theorem container_modifyContainer (b : Builder) (f : Forest → Forest) :
    (b.modifyContainer f).container = f b.container := by
  obtain ⟨roots, stack, atStart, pending⟩ := b
  cases stack <;> rfl

@[simp] theorem atStart_modifyContainer (b : Builder) (f : Forest → Forest) :
    (b.modifyContainer f).atStart = b.atStart := by
  obtain ⟨roots, stack, atStart, pending⟩ := b
  cases stack <;> rfl

@[simp] theorem pending_modifyContainer (b : Builder) (f : Forest → Forest) :
    (b.modifyContainer f).pending = b.pending := by
  obtain ⟨roots, stack, atStart, pending⟩ := b
  cases stack <;> rfl

@[simp] theorem stack_modifyContainer_eq_nil {b : Builder} {f : Forest → Forest} :
    (b.modifyContainer f).stack = [] ↔ b.stack = [] := by
  obtain ⟨roots, stack, atStart, pending⟩ := b
  cases stack <;> simp [modifyContainer]

theorem modifyContainer_withPending (b : Builder) (f : Forest → Forest) (pending : String) :
    { b with pending := pending }.modifyContainer f =
      { b.modifyContainer f with pending := pending } := by
  obtain ⟨roots, stack, atStart, before⟩ := b
  cases stack <;> rfl

theorem modifyContainer_started (b : Builder) (f : Forest → Forest) :
    { b.modifyContainer f with atStart := false } =
      { b with atStart := false }.modifyContainer f := by
  obtain ⟨roots, stack, atStart, pending⟩ := b
  cases stack <;> rfl

/-- The last child is no text, as it is behind every tag. -/
def Fresh (b : Builder) : Prop :=
  ∀ data rest, b.container ≠ .text data :: rest

theorem Fresh.appendText {b : Builder} (h : b.Fresh) (data : String) :
    appendText data b.container = .text data :: b.container := by
  unfold Html.appendText
  split
  · rename_i before rest heq
    exact absurd heq (h before rest)
  · rfl

theorem Fresh.trimLastText {b : Builder} (h : b.Fresh) :
    trimLastText b.container = b.container := by
  unfold Html.trimLastText
  split
  · rename_i data rest heq
    exact absurd heq (h data rest)
  · rfl

/-! ## Whole nodes -/

/-- Put nodes, in order, behind the last child. -/
def push (nodes : Forest) (b : Builder) : Builder :=
  if nodes = [] then b
  else { b with atStart := false }.modifyContainer (nodes.reverse ++ ·)

@[simp] theorem push_nil (b : Builder) : b.push [] = b := rfl

theorem push_of_ne {nodes : Forest} (h : nodes ≠ []) (b : Builder) :
    b.push nodes = { b with atStart := false }.modifyContainer (nodes.reverse ++ ·) :=
  if_neg h

theorem push_push (b : Builder) (xs ys : Forest) : (b.push xs).push ys = b.push (xs ++ ys) := by
  by_cases hx : xs = []
  · simp [hx]
  by_cases hy : ys = []
  · simp [hy]
  rw [push_of_ne hy, push_of_ne hx, push_of_ne (by simp [hx]), modifyContainer_started,
    modifyContainer_modifyContainer]
  exact modifyContainer_congr (by simp)

@[simp] theorem container_push (b : Builder) (nodes : Forest) :
    (b.push nodes).container = nodes.reverse ++ b.container := by
  unfold push
  split
  · rename_i h
    simp [h]
  · rw [container_modifyContainer]
    rfl

@[simp] theorem stack_push_eq_nil {b : Builder} {nodes : Forest} :
    (b.push nodes).stack = [] ↔ b.stack = [] := by
  unfold push
  split <;> simp

@[simp] theorem pending_push (b : Builder) (nodes : Forest) :
    (b.push nodes).pending = b.pending := by
  unfold push
  split <;> simp

/-- An element that closes with its children inside stands behind the last child. -/
theorem closeElement_push {children : Forest} (h : trimLastText children.reverse = children.reverse)
    (name : String) (attrs : Attributes) (b : Builder) :
    ((b.openElement name attrs).push children).closeElement name =
      .ok (b.push [.element name attrs children]) := by
  have hchildren : trimLastText (children.reverse ++ []) = children.reverse := by
    rw [List.append_nil, h]
  by_cases hnil : children = []
  · subst hnil
    simp [closeElement, openElement, push, trimLastText]
  · simp only [push_of_ne hnil, openElement, modifyContainer, closeElement, if_true, hchildren,
      List.reverse_reverse]
    rfl

/-! ## Writing -/

def put (text : List Char) (b : Builder) : Builder :=
  if text = [] then b else b.push [.text (.ofList text)]

/-- Put a text behind the last child, without blanks in front if it is the first. -/
def write (text : List Char) (b : Builder) : Builder :=
  b.put (if b.atStart then dropBlanks text else text)

@[simp] theorem put_nil (b : Builder) : b.put [] = b := rfl

@[simp] theorem write_nil (b : Builder) : b.write [] = b := by
  simp [write, dropBlanks]

theorem put_of_ne {text : List Char} (h : text ≠ []) (b : Builder) :
    b.put text = b.push [.text (.ofList text)] :=
  if_neg h

@[simp] theorem pending_put (text : List Char) (b : Builder) :
    (b.put text).pending = b.pending := by
  unfold put
  split <;> simp

@[simp] theorem pending_write (text : List Char) (b : Builder) :
    (b.write text).pending = b.pending :=
  pending_put _ b

/-- What has more than blanks has more than blanks without those in front. -/
theorem start_ne_nil {text : List Char} (h : solid text ≠ []) (first : Bool) :
    (if first then dropBlanks text else text) ≠ [] := by
  intro hnil
  apply h
  cases first with
  | true => rw [← Text.solid_dropBlanks, if_pos rfl] at *; rw [hnil]; rfl
  | false => rw [if_neg (by simp)] at hnil; rw [hnil]; rfl

theorem addText_of_not_blank {data : String} (h : isBlankText data = false) (b : Builder) :
    b.addText data =
      { b with atStart := false }.modifyContainer (appendText
        (.ofList (if b.atStart then dropBlanks (settled data) else settled data))) := by
  have hdata : settled data = collapseFrom false data.toList := by simp [settled, h]
  rw [addText, if_neg (by simp [h]), hdata]
  cases b.atStart <;> simp [Text.trimStart, Text.collapse]

/-- A chunk goes on with the text that was written before it. -/
theorem addText_write {b : Builder} (hb : b.Fresh) {text : List Char} (ht : Worded text)
    (data : String) : (b.write text).addText data = b.write (text ++ settled data) := by
  cases hdata : isBlankText data with
  | true => simp [addText, settled, hdata]
  | false =>
      have hsettled : solid (settled data) ≠ [] := by
        rw [solid_settled]
        intro h
        simp [Text.isBlankText_iff.2 h] at hdata
      rw [addText_of_not_blank hdata]
      -- The first chunk makes the text and the next ones go on with it. Both have words, so that
      -- neither vanishes without the blanks in front.
      by_cases htext : text = []
      · subst htext
        rw [write_nil, List.nil_append, write, put_of_ne (start_ne_nil hsettled _),
          push_of_ne (by simp)]
        exact modifyContainer_congr (hb.appendText _)
      · have hsolid : solid text ≠ [] := fun h => htext (ht h)
        have happend : (if b.atStart then dropBlanks (text ++ settled data)
            else text ++ settled data) =
              (if b.atStart then dropBlanks text else text) ++ settled data := by
          rw [Text.dropBlanks_append hsolid]
          split <;> rfl
        have hstart := start_ne_nil hsolid b.atStart
        rw [write, write, happend, put_of_ne hstart, put_of_ne (by simp [hstart]),
          push_of_ne (by simp), push_of_ne (by simp), modifyContainer_started,
          modifyContainer_modifyContainer]
        simp only [atStart_modifyContainer, Bool.false_eq_true, if_false]
        refine modifyContainer_congr ?_
        simp [Html.appendText, String.ofList_append]

theorem addText_withPending (b : Builder) (data pending : String) :
    { b with pending := pending }.addText data = { b.addText data with pending := pending } := by
  unfold addText
  split
  · rfl
  · exact modifyContainer_withPending { b with atStart := false } _ _

@[simp] theorem stack_flush_eq_nil {b : Builder} : b.flush.stack = [] ↔ b.stack = [] := by
  have haddText : (b.addText b.pending).stack = [] ↔ b.stack = [] := by
    unfold addText
    split <;> simp
  exact haddText

theorem flush_of_pending {b : Builder} (h : b.pending = "") : b.flush = b := by
  obtain ⟨roots, stack, atStart, pending⟩ := b
  cases h
  rfl

theorem finish_flush (b : Builder) : b.flush.finish = b.finish := by
  have hstack : b.flush.stack.map OpenElement.name = b.stack.map OpenElement.name := by
    obtain ⟨roots, stack, atStart, pending⟩ := b
    simp only [flush, addText]
    split
    · rfl
    · cases stack <;> rfl
  have hroots : b.flush.flush.roots = b.flush.roots := rfl
  unfold finish
  cases hopen : b.stack with
  | nil =>
      rw [hopen, List.map_nil, List.map_eq_nil_iff] at hstack
      simp only [hstack, hroots]
  | cons innermost outer =>
      cases hopen' : b.flush.stack with
      | nil => simp [hopen, hopen'] at hstack
      | cons innermost' outer' =>
          rw [hopen, hopen', List.map_cons, List.map_cons, List.cons.injEq] at hstack
          simp only [hstack.1]

theorem finish_of_flush {b c : Builder} (h : b.flush = c) (hstack : c.stack = []) :
    b.finish = .ok c.container.reverse := by
  have hopen : b.stack = [] := by
    rw [← h, stack_flush_eq_nil] at hstack
    exact hstack
  simp only [finish, hopen, container, hstack, h]

theorem finish_eq_ok {b : Builder} (hpending : b.pending = "") {nodes : Forest} :
    b.finish = .ok nodes ↔ b.stack = [] ∧ b.roots.reverse = nodes := by
  unfold finish
  split <;> simp_all [flush_of_pending hpending]

/-! ## Reading between tags -/

/-- The builder that wrote a text after its last tag, and has more pending. -/
def hold (text : List Char) (pending : String) (b : Builder) : Builder :=
  { b.write text with pending := pending }

section Hold

variable {b : Builder} {text : List Char} {pending : String}

theorem hold_nil (h : b.pending = "") : b.hold [] "" = b := by
  rw [hold, write_nil, ← h]

theorem flush_hold (hb : b.Fresh) (ht : Worded text) :
    (b.hold text pending).flush = b.hold (text ++ settled pending) "" := by
  simp only [flush, hold, addText_withPending, addText_write hb ht]

theorem step_hold_text (data : String) :
    (b.hold text pending).step (.text data) = .ok (b.hold text (pending ++ data)) := rfl

/-- A token that is neither text nor tag ends a chunk. -/
theorem step_hold_mark {token : Token} (htoken : token ∈ [.comment, .doctype, .fault])
    (hb : b.Fresh) (ht : Worded text) :
    (b.hold text pending).step token = .ok (b.hold (text ++ settled pending) "") := by
  simp only [List.mem_cons, List.not_mem_nil, or_false] at htoken
  rcases htoken with rfl | rfl | rfl <;> simp only [step, flush_hold hb ht]

end Hold

end Builder

end ArticleTree.Html
