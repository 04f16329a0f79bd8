import ArticleTree.Proofs.Html.Writing

/-! # The texts of a token list

Between two tags stands a stretch of text, which comes in chunks. `texts` lists what becomes of
each stretch, and is all that a builder takes from the tokens besides the tags. A builder in the
middle of a stretch has one equation for each token, so that two builders can be compared stretch
by stretch.
-/

namespace ArticleTree.Html

open Text (solid dropBlanks dropBlanksAtEnd)

/-- A text without blanks in front if it is the first thing in its element, and without blanks
    behind if it is the last. -/
def trimmed (first last : Bool) (text : List Char) : List Char :=
  let text := if first then dropBlanks text else text
  if last then dropBlanksAtEnd text else text

/-- What becomes of the stretches of text between tags. `text` is what became of the chunks that
    were read of the first stretch, and `pending` is a chunk that may go on. -/
def textsFrom (first : Bool) (text : List Char) (pending : String) : List Token → List (List Char)
  | [] => [trimmed first false (text ++ settled pending)]
  | .text data :: rest => textsFrom first text (pending ++ data) rest
  | .startTag name _ selfClosing :: rest =>
      trimmed first false (text ++ settled pending) ::
        textsFrom (!(selfClosing || voidElements.contains name)) [] "" rest
  | .endTag _ :: rest =>
      trimmed first true (text ++ settled pending) :: textsFrom false [] "" rest
  | .comment :: rest | .doctype :: rest | .fault :: rest =>
      textsFrom first (text ++ settled pending) "" rest

/-- What becomes of the stretches of text between the tags of the tokens. -/
def texts (tokens : List Token) : List (List Char) :=
  textsFrom true [] "" tokens

@[simp] theorem trimmed_nil (first last : Bool) : trimmed first last [] = [] := by
  cases first <;> cases last <;> rfl

@[simp] theorem solid_trimmed (first last : Bool) (text : List Char) :
    solid (trimmed first last text) = solid text := by
  unfold trimmed
  cases first <;> cases last <;> simp

theorem dropBlanksAtEnd_trimmed (first : Bool) (text : List Char) :
    dropBlanksAtEnd (trimmed first true text) = trimmed first true text :=
  Text.dropBlanksAtEnd_idem _

theorem Worded.trimmed {text : List Char} (h : Worded text) (first last : Bool) :
    Worded (trimmed first last text) := by
  intro hsolid
  rw [solid_trimmed] at hsolid
  rw [h hsolid, trimmed_nil]

theorem Worded.trimmed_eq_nil {text : List Char} (h : Worded text) (first last : Bool) :
    Html.trimmed first last text = [] ↔ solid text = [] := by
  constructor
  · intro hnil
    rw [← solid_trimmed first last, hnil]
    rfl
  · intro hsolid
    rw [h hsolid, trimmed_nil]

namespace Builder

/-! ## Closing -/

theorem Fresh.trimLastText_put {b : Builder} (h : b.Fresh) {text : List Char}
    (htext : dropBlanksAtEnd text = text) :
    Html.trimLastText (b.put text).container = (b.put text).container := by
  by_cases hnil : text = []
  · rw [hnil, put_nil, h.trimLastText]
  · rw [put_of_ne hnil, container_push]
    simp [Html.trimLastText, Text.trimEnd, htext]

/-- Of what is open, the end tag only sees the last text trimmed. -/
theorem closeElement_congr {b : Builder} {f g : Forest → Forest}
    (h : trimLastText (f b.container) = trimLastText (g b.container)) (name : String) :
    (b.modifyContainer f).closeElement name = (b.modifyContainer g).closeElement name := by
  obtain ⟨roots, stack, atStart, pending⟩ := b
  cases stack with
  | nil => rfl
  | cons innermost outer =>
      have hchildren :
          trimLastText (f innermost.children) = trimLastText (g innermost.children) := h
      simp only [modifyContainer, closeElement, hchildren]

theorem closeElement_write {b : Builder} {text : List Char} (ht : Worded text) (name : String) :
    (b.write text).closeElement name = (b.put (trimmed b.atStart true text)).closeElement name := by
  have hlast : trimmed b.atStart true text = dropBlanksAtEnd (trimmed b.atStart false text) := rfl
  have hworded : Worded (trimmed b.atStart false text) := ht.trimmed _ _
  change (b.put (trimmed b.atStart false text)).closeElement name = _
  rw [hlast]
  generalize trimmed b.atStart false text = start at hworded
  -- An end tag only trims a text that is there, and with a word in it that does not vanish.
  by_cases hnil : start = []
  · rw [hnil]
    rfl
  · have hkept : dropBlanksAtEnd start ≠ [] := by
      intro h
      refine hnil (hworded ?_)
      rw [← Text.solid_dropBlanksAtEnd, h]
      rfl
    rw [put_of_ne hnil, put_of_ne hkept, push_of_ne (by simp), push_of_ne (by simp)]
    refine closeElement_congr ?_ name
    simp [trimLastText, Text.trimEnd]

/-- What an end tag makes of a builder that it fits. -/
theorem closeElement_eq_ok {b c : Builder} {name : String} :
    b.closeElement name = .ok c ↔ ∃ attrs children outer,
      b.stack = ⟨name, attrs, children⟩ :: outer ∧
        c = { b with stack := outer }.push
          [.element name attrs (trimLastText children).reverse] := by
  obtain ⟨roots, stack, atStart, pending⟩ := b
  cases stack with
  | nil => simp [closeElement]
  | cons innermost outer =>
      obtain ⟨opened, attrs, children⟩ := innermost
      by_cases hname : opened = name
      · subst hname
        simp only [closeElement, if_true, Except.ok.injEq, List.cons.injEq, OpenElement.mk.injEq,
          true_and]
        constructor
        · rintro rfl
          exact ⟨attrs, children, outer, ⟨⟨rfl, rfl⟩, rfl⟩, rfl⟩
        · rintro ⟨_, _, _, ⟨⟨rfl, rfl⟩, rfl⟩, rfl⟩
          rfl
      · simp [closeElement, hname]

/-! ## What a builder remembers -/

/-- The builders have the same nodes, finished and open. -/
structure SameParts (b b' : Builder) : Prop where
  roots : b.roots = b'.roots
  stack : b.stack = b'.stack

theorem SameParts.of_push {b b' : Builder} {n n' : Node}
    (h : SameParts (b.push [n]) (b'.push [n'])) : SameParts b b' ∧ n = n' := by
  obtain ⟨roots, stack, atStart, pending⟩ := b
  obtain ⟨roots', stack', atStart', pending'⟩ := b'
  obtain ⟨hroots, hstack⟩ := h
  cases stack with
  | nil =>
      cases stack' with
      | nil =>
          obtain ⟨rfl, rfl⟩ := List.cons.inj hroots
          exact ⟨⟨rfl, rfl⟩, rfl⟩
      | cons => cases hstack
  | cons innermost outer =>
      cases stack' with
      | nil => cases hstack
      | cons innermost' outer' =>
          obtain ⟨name, attrs, children⟩ := innermost
          obtain ⟨name', attrs', children'⟩ := innermost'
          obtain ⟨hinnermost, rfl⟩ := List.cons.inj hstack
          obtain ⟨rfl, rfl, hchildren⟩ := OpenElement.mk.inj hinnermost
          obtain ⟨rfl, rfl⟩ := List.cons.inj hchildren
          exact ⟨⟨hroots, rfl⟩, rfl⟩

theorem SameParts.of_put {b b' : Builder} {text text' : List Char} (hnil : text = [] ↔ text' = [])
    (h : SameParts (b.put text) (b'.put text')) : SameParts b b' ∧ text = text' := by
  by_cases htext : text = []
  · have htext' := hnil.1 htext
    rw [htext, htext', put_nil, put_nil] at h
    exact ⟨h, htext.trans htext'.symm⟩
  · rw [put_of_ne htext, put_of_ne (mt hnil.2 htext)] at h
    obtain ⟨hsame, hnode⟩ := h.of_push
    exact ⟨hsame, String.ofList_injective (Node.text.inj hnode)⟩

theorem SameParts.of_openElement {b b' : Builder} {name : String} {attrs : Attributes}
    (h : SameParts (b.openElement name attrs) (b'.openElement name attrs)) : SameParts b b' :=
  ⟨h.roots, (List.cons.inj h.stack).2⟩

/-- Closing forgets nothing if there is nothing to trim. -/
theorem SameParts.of_closeElement {b b' c c' : Builder} {name : String}
    (hb : trimLastText b.container = b.container) (hb' : trimLastText b'.container = b'.container)
    (hc : b.closeElement name = .ok c) (hc' : b'.closeElement name = .ok c')
    (h : SameParts c c') : SameParts b b' := by
  obtain ⟨attrs, children, outer, hstack, rfl⟩ := closeElement_eq_ok.1 hc
  obtain ⟨attrs', children', outer', hstack', rfl⟩ := closeElement_eq_ok.1 hc'
  obtain ⟨hsame, hnode⟩ := h.of_push
  obtain ⟨_, rfl, hchildren⟩ := Node.element.inj hnode
  have htrim : trimLastText children = children := by
    simpa only [container, hstack] using hb
  have htrim' : trimLastText children' = children' := by
    simpa only [container, hstack'] using hb'
  rw [htrim, htrim'] at hchildren
  obtain rfl := List.reverse_inj.1 hchildren
  refine ⟨hsame.roots, ?_⟩
  rw [hstack, hstack']
  exact congrArg _ hsame.stack

/-- A builder in the middle of a stretch is what it was after the tag before, the text that it
    wrote since, and what is pending. -/
structure Stretch where
  base : Builder
  text : List Char
  pending : String
  fresh : base.Fresh
  nothingPending : base.pending = ""
  worded : Worded text

namespace Stretch

def builder (s : Stretch) : Builder :=
  s.base.hold s.text s.pending

/-- The text of the stretch if it ends here. -/
def full (s : Stretch) : List Char :=
  s.text ++ settled s.pending

theorem worded_full (s : Stretch) : Worded s.full :=
  s.worded.append (worded_settled _)

@[simp] theorem solid_full (s : Stretch) :
    solid s.full = solid s.text ++ solid s.pending.toList := by
  rw [full, Text.solid_append, solid_settled]

/-- The chunk goes on. -/
def more (data : String) (s : Stretch) : Stretch :=
  { s with pending := s.pending ++ data }

theorem solid_full_more (data : String) (s : Stretch) :
    solid (s.more data).full = solid s.full ++ solid data.toList := by
  simp [more, Text.solid_append]

/-- The chunk ends. -/
def cut (s : Stretch) : Stretch :=
  { s with text := s.full, pending := "", worded := s.worded_full }

/-- The stretch after a tag. -/
def after (b : Builder) (fresh : b.Fresh) (nothingPending : b.pending = "") : Stretch :=
  ⟨b, [], "", fresh, nothingPending, worded_nil⟩

theorem builder_after {b : Builder} (fresh : b.Fresh) (nothingPending : b.pending = "") :
    (after b fresh nothingPending).builder = b :=
  hold_nil nothingPending

theorem full_cut (s : Stretch) : s.cut.full = s.full := by
  simp [cut, full, settled, Text.isBlankText]

def texts (s : Stretch) (tokens : List Token) : List (List Char) :=
  textsFrom s.base.atStart s.text s.pending tokens

theorem flush_builder (s : Stretch) : s.builder.flush = s.base.write s.full := by
  rw [builder, flush_hold s.fresh s.worded, hold, ← s.nothingPending, ← pending_write s.full]
  rfl

theorem write_full (s : Stretch) :
    s.base.write s.full = s.base.put (trimmed s.base.atStart false s.full) := rfl

/-- The stretch in an element that was opened behind this one. -/
def within (name : String) (attrs : Attributes) (s : Stretch) : Stretch :=
  after ((s.base.write s.full).openElement name attrs) (by rintro data rest ⟨⟩)
    ((pending_write s.full s.base).trans s.nothingPending)

/-- The stretch behind an element without content. -/
def beyond (name : String) (attrs : Attributes) (s : Stretch) : Stretch :=
  after ((s.base.write s.full).push [.element name attrs []])
    (by intro data rest h; rw [container_push] at h; cases h)
    ((pending_push ..).trans ((pending_write s.full s.base).trans s.nothingPending))

theorem builder_within (name : String) (attrs : Attributes) (s : Stretch) :
    (s.within name attrs).builder = (s.base.write s.full).openElement name attrs :=
  builder_after _ _

theorem builder_beyond (name : String) (attrs : Attributes) (s : Stretch) :
    (s.beyond name attrs).builder = (s.base.write s.full).push [.element name attrs []] :=
  builder_after _ _

theorem fresh_of_closeElement {b c : Builder} {name : String} (h : b.closeElement name = .ok c) :
    c.Fresh := by
  obtain ⟨attrs, children, outer, _, rfl⟩ := closeElement_eq_ok.1 h
  intro data rest hcontainer
  rw [container_push] at hcontainer
  cases hcontainer

theorem pending_of_closeElement {b c : Builder} {name : String}
    (h : b.closeElement name = .ok c) : c.pending = b.pending := by
  obtain ⟨attrs, children, outer, _, rfl⟩ := closeElement_eq_ok.1 h
  exact pending_push _ _

theorem atStart_of_closeElement {b c : Builder} {name : String}
    (h : b.closeElement name = .ok c) : c.atStart = false := by
  obtain ⟨attrs, children, outer, _, rfl⟩ := closeElement_eq_ok.1 h
  rw [push_of_ne (by simp), atStart_modifyContainer]

section Behind

variable {name : String} {text : List Char} {c : Builder}

def behind (s : Stretch) (h : (s.base.put text).closeElement name = .ok c) : Stretch :=
  after c (fresh_of_closeElement h)
    ((pending_of_closeElement h).trans ((pending_put _ _).trans s.nothingPending))

theorem builder_behind (s : Stretch) (h : (s.base.put text).closeElement name = .ok c) :
    (s.behind h).builder = c :=
  builder_after _ _

theorem texts_behind (s : Stretch) (h : (s.base.put text).closeElement name = .ok c)
    (tokens : List Token) : (s.behind h).texts tokens = textsFrom false [] "" tokens := by
  rw [← atStart_of_closeElement h]
  rfl

end Behind

end Stretch

/-! ## What comes of the tokens -/

def outcome (tokens : List Token) (b : Builder) : Except Unbalanced Forest := do
  (← tokens.foldlM Builder.step b).finish

theorem outcome_cons (token : Token) (tokens : List Token) (b : Builder) :
    b.outcome (token :: tokens) = b.step token >>= outcome tokens := by
  rw [outcome, List.foldlM_cons, bind_assoc]
  rfl

theorem bind_eq_ok {α β : Type} {result : Except Unbalanced α} {next : α → Except Unbalanced β}
    {y : β} : result >>= next = .ok y ↔ ∃ x, result = .ok x ∧ next x = .ok y := by
  cases result <;> simp [bind, Except.bind]

namespace Stretch

variable (s : Stretch)

theorem outcome_nil : s.builder.outcome [] = (s.base.write s.full).finish := by
  rw [← s.flush_builder, finish_flush]
  rfl

theorem outcome_text (data : String) (tokens : List Token) :
    s.builder.outcome (.text data :: tokens) = (s.more data).builder.outcome tokens := by
  rw [outcome_cons, builder, step_hold_text]
  rfl

theorem outcome_mark {token : Token} (h : token ∈ [.comment, .doctype, .fault])
    (tokens : List Token) :
    s.builder.outcome (token :: tokens) = s.cut.builder.outcome tokens := by
  rw [outcome_cons, builder, step_hold_mark h s.fresh s.worded]
  rfl

def started (name : String) (attrs : Attributes) (selfClosing : Bool) : Stretch :=
  if selfClosing || voidElements.contains name then s.beyond name attrs else s.within name attrs

theorem base_started (name : String) (attrs : Attributes) (selfClosing : Bool) :
    (s.started name attrs selfClosing).base =
      if selfClosing || voidElements.contains name then
        (s.base.write s.full).push [.element name attrs []]
      else (s.base.write s.full).openElement name attrs := by
  unfold started
  split <;> rfl

theorem full_started (name : String) (attrs : Attributes) (selfClosing : Bool) :
    (s.started name attrs selfClosing).full = [] := by
  unfold started
  split <;> simp [beyond, within, after, full, settled, Text.isBlankText]

theorem atStart_started (name : String) (attrs : Attributes) (selfClosing : Bool) :
    (s.started name attrs selfClosing).base.atStart =
      !(selfClosing || voidElements.contains name) := by
  rw [base_started]
  split
  · rename_i hcloses
    rw [push_of_ne (by simp), atStart_modifyContainer, hcloses]
    rfl
  · rename_i hstays
    rw [Bool.not_eq_true] at hstays
    rw [hstays]
    rfl

theorem outcome_startTag (name : String) (attrs : Attributes) (selfClosing : Bool)
    (tokens : List Token) :
    s.builder.outcome (.startTag name attrs selfClosing :: tokens) =
      (s.started name attrs selfClosing).builder.outcome tokens := by
  rw [outcome_cons, step, flush_builder, started]
  split
  · have hclose := @closeElement_push [] rfl name attrs (s.base.write s.full)
    rw [push_nil] at hclose
    rw [hclose, builder_beyond]
    rfl
  · rw [builder_within]
    rfl

theorem texts_startTag (name : String) (attrs : Attributes) (selfClosing : Bool)
    (tokens : List Token) :
    s.texts (.startTag name attrs selfClosing :: tokens) =
      trimmed s.base.atStart false s.full :: (s.started name attrs selfClosing).texts tokens := by
  have hstart : (s.started name attrs selfClosing).texts tokens =
      textsFrom (!(selfClosing || voidElements.contains name)) [] "" tokens := by
    rw [← s.atStart_started name attrs]
    unfold started
    split <;> rfl
  rw [hstart]
  rfl

theorem outcome_endTag (name : String) (tokens : List Token) :
    s.builder.outcome (.endTag name :: tokens) =
      (s.base.put (trimmed s.base.atStart true s.full)).closeElement name >>= outcome tokens := by
  rw [outcome_cons, step, flush_builder, closeElement_write s.worded_full]

def beginning : Stretch :=
  after Builder.start (by rintro data rest ⟨⟩) rfl

theorem outcome_beginning (tokens : List Token) :
    beginning.builder.outcome tokens = forestOf tokens := rfl

theorem texts_beginning (tokens : List Token) : beginning.texts tokens = Html.texts tokens := rfl

end Stretch

end Builder

end ArticleTree.Html
