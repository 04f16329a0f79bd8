import ArticleTree.Html.Parse
import ArticleTree.Proofs.Text.Blank

/-! # What parsing keeps of the texts

Whatever a builder does to texts, it does to their blanks. Reading the tokens without the blanks
of their texts gives the nodes without the blanks of theirs.
-/

namespace ArticleTree.Html

open Text (solid)

/-! ## Texts without blanks -/

/-- A text without its blanks. -/
def unspacedText (data : String) : String :=
  .ofList (solid data.toList)

@[simp] theorem solid_unspacedText (data : String) :
    solid (unspacedText data).toList = solid data.toList := by
  simp [unspacedText]

theorem unspacedText_congr {data data' : String} (h : solid data.toList = solid data'.toList) :
    unspacedText data = unspacedText data' :=
  congrArg String.ofList h

theorem unspacedText_append (before data : String) :
    unspacedText (before ++ data) = unspacedText before ++ unspacedText data := by
  simp [unspacedText, Text.solid_append]

theorem isBlankText_unspacedText (data : String) :
    Text.isBlankText (unspacedText data) = Text.isBlankText data := by
  rw [Bool.eq_iff_iff, Text.isBlankText_iff, Text.isBlankText_iff, solid_unspacedText]

theorem not_isBlank_of_mem_unspacedText {data : String} {c : Char}
    (h : c ∈ (unspacedText data).toList) : Text.isBlank c = false := by
  rw [unspacedText, String.toList_ofList] at h
  exact Text.not_isBlank_of_mem_solid h

theorem trimEnd_unspacedText (data : String) :
    Text.trimEnd (unspacedText data) = unspacedText (Text.trimEnd data) := by
  have hkept : Text.dropBlanksAtEnd (unspacedText data).toList = (unspacedText data).toList :=
    Text.dropBlanksAtEnd_eq_self fun c hc =>
      not_isBlank_of_mem_unspacedText (List.mem_of_mem_getLast? hc)
  rw [Text.trimEnd, hkept, String.ofList_toList]
  exact unspacedText_congr (by simp [Text.trimEnd])

theorem trimStart_unspacedText (data : String) :
    Text.trimStart (unspacedText data) = unspacedText (Text.trimStart data) := by
  have hkept : Text.dropBlanks (unspacedText data).toList = (unspacedText data).toList :=
    Text.dropBlanks_eq_self fun c hc =>
      not_isBlank_of_mem_unspacedText (List.mem_of_mem_head? hc)
  rw [Text.trimStart, hkept, String.ofList_toList]
  exact unspacedText_congr (by simp [Text.trimStart])

theorem collapse_unspacedText (data : String) :
    Text.collapse (unspacedText data) = unspacedText (Text.collapse data) := by
  have hkept : Text.collapseFrom false (unspacedText data).toList = (unspacedText data).toList :=
    Text.collapseFrom_of_none (fun _ => not_isBlank_of_mem_unspacedText) false
  rw [Text.collapse, hkept, String.ofList_toList]
  exact unspacedText_congr (by simp [Text.collapse])

/-! ## Nodes without blanks -/

mutual

/-- A text or an element without the blanks of its texts. -/
def unspacedNode : Node → Node
  | .text data => .text (unspacedText data)
  | .element name attrs children => .element name attrs (unspaced children)
  | n => n

def unspaced : Forest → Forest
  | [] => []
  | n :: rest => unspacedNode n :: unspaced rest

end

def Token.unspaced : Token → Token
  | .text data => .text (unspacedText data)
  | token => token

theorem unspaced_eq_map (nodes : Forest) : unspaced nodes = nodes.map unspacedNode := by
  induction nodes with
  | nil => rfl
  | cons n rest ih => rw [unspaced, ih, List.map_cons]

theorem unspaced_reverse (nodes : Forest) : unspaced nodes.reverse = (unspaced nodes).reverse := by
  rw [unspaced_eq_map, unspaced_eq_map, List.map_reverse]

theorem unspaced_appendText (data : String) (nodes : Forest) :
    unspaced (appendText data nodes) = appendText (unspacedText data) (unspaced nodes) := by
  cases nodes with
  | nil => rfl
  | cons n rest => cases n <;> simp [appendText, unspaced, unspacedNode, unspacedText_append]

theorem unspaced_trimLastText (nodes : Forest) :
    unspaced (trimLastText nodes) = trimLastText (unspaced nodes) := by
  cases nodes with
  | nil => rfl
  | cons n rest =>
      cases n <;> simp [trimLastText, unspaced, unspacedNode, trimEnd_unspacedText]

/-! ## Builders without blanks -/

namespace Builder

def unspaced (b : Builder) : Builder where
  roots := Html.unspaced b.roots
  stack := b.stack.map fun e => { e with children := Html.unspaced e.children }
  atStart := b.atStart
  pending := unspacedText b.pending

theorem unspaced_modifyContainer {f g : Forest → Forest}
    (h : ∀ nodes, Html.unspaced (f nodes) = g (Html.unspaced nodes)) (b : Builder) :
    (b.modifyContainer f).unspaced = b.unspaced.modifyContainer g := by
  obtain ⟨roots, stack, atStart, pending⟩ := b
  cases stack <;> simp [modifyContainer, unspaced, h]

theorem unspaced_addText (data : String) (b : Builder) :
    (b.addText data).unspaced = b.unspaced.addText (unspacedText data) := by
  have hadded : unspacedText (if b.atStart then Text.trimStart (Text.collapse data)
      else Text.collapse data) = if b.unspaced.atStart then
        Text.trimStart (Text.collapse (unspacedText data))
      else Text.collapse (unspacedText data) := by
    rw [collapse_unspacedText, trimStart_unspacedText]
    cases hstart : b.atStart <;> simp [unspaced, hstart]
  unfold addText
  rw [isBlankText_unspacedText]
  split
  · rfl
  · dsimp only
    rw [← hadded]
    exact unspaced_modifyContainer (fun nodes => unspaced_appendText _ nodes)
      { b with atStart := false }

theorem unspaced_flush (b : Builder) : b.flush.unspaced = b.unspaced.flush := by
  have hcleared (c : Builder) :
      { c with pending := "" }.unspaced = { c.unspaced with pending := "" } := rfl
  rw [flush, hcleared, unspaced_addText]
  rfl

theorem unspaced_openElement (name : String) (attrs : Attributes) (b : Builder) :
    (b.openElement name attrs).unspaced = b.unspaced.openElement name attrs := rfl

theorem unspaced_closeElement (name : String) (b : Builder) :
    b.unspaced.closeElement name = (b.closeElement name).map unspaced := by
  obtain ⟨roots, stack, atStart, pending⟩ := b
  cases stack with
  | nil => rfl
  | cons innermost outer =>
      simp only [closeElement, unspaced, List.map_cons]
      split
      · have hnode (nodes : Forest) :
            Html.unspaced (.element name innermost.attrs
              (trimLastText innermost.children).reverse :: nodes) =
              .element name innermost.attrs
                (trimLastText (Html.unspaced innermost.children)).reverse ::
                  Html.unspaced nodes := by
          rw [Html.unspaced, unspacedNode, unspaced_reverse, unspaced_trimLastText]
        exact congrArg Except.ok
          (unspaced_modifyContainer hnode ⟨roots, outer, false, pending⟩).symm
      · rfl

/-- A builder that does not see blanks takes the same steps. -/
theorem unspaced_step (b : Builder) (token : Token) :
    b.unspaced.step token.unspaced = (b.step token).map unspaced := by
  cases token with
  | text data =>
      simp only [Token.unspaced, step, unspaced, ← unspacedText_append]
      rfl
  | startTag name attrs selfClosing =>
      simp only [Token.unspaced, step, ← unspaced_flush, ← unspaced_openElement]
      split
      · exact unspaced_closeElement name _
      · rfl
  | endTag name =>
      simp only [Token.unspaced, step, ← unspaced_flush, unspaced_closeElement]
  | comment | doctype | fault =>
      simp only [Token.unspaced, step, ← unspaced_flush]
      rfl

theorem unspaced_finish (b : Builder) : b.unspaced.finish = b.finish.map Html.unspaced := by
  have hroots : b.unspaced.flush.roots = Html.unspaced b.flush.roots := by
    rw [← unspaced_flush]
    rfl
  unfold finish
  rw [hroots, ← unspaced_reverse]
  obtain ⟨roots, stack, atStart, pending⟩ := b
  cases stack <;> rfl

theorem unspaced_foldlM (b : Builder) (tokens : List Token) :
    (tokens.map Token.unspaced).foldlM step b.unspaced = (tokens.foldlM step b).map unspaced := by
  induction tokens generalizing b with
  | nil => rfl
  | cons token tokens ih =>
      rw [List.map_cons, List.foldlM_cons, List.foldlM_cons, unspaced_step]
      cases b.step token with
      | error unbalanced => rfl
      | ok next => exact ih next

end Builder

/-- Blanks in the tokens make no other difference than blanks in the nodes. -/
theorem forestOf_unspaced (tokens : List Token) :
    forestOf (tokens.map Token.unspaced) = (forestOf tokens).map unspaced := by
  have hfold := Builder.start.unspaced_foldlM tokens
  unfold forestOf
  change List.foldlM Builder.step Builder.start.unspaced _ >>= Builder.finish = _
  rw [hfold]
  cases tokens.foldlM Builder.step Builder.start with
  | error unbalanced => rfl
  | ok b => exact b.unspaced_finish

end ArticleTree.Html
