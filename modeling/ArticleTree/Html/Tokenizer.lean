import ArticleTree.Html.Reference
import ArticleTree.Html.Token

/-! # Reading HTML text

A machine that reads one character at a time cuts HTML text into tokens. It never gives
up: what is not well written is read as the nearest well written text. A tag that the
text ends in is dropped.
-/

namespace ArticleTree.Html

/-- Carriage returns, with a line feed after them or without, become line feeds. -/
def normalizeNewlines : List Char → List Char
  | '\r' :: '\n' :: cs => '\n' :: normalizeNewlines cs
  | '\r' :: cs => '\n' :: normalizeNewlines cs
  | c :: cs => c :: normalizeNewlines cs
  | [] => []

/-- The characters that separate the parts of a tag. -/
def isTagSpace (c : Char) : Bool :=
  c == '\t' || c == '\n' || c == '\x0c' || c == ' '

/-- A character inside a tag: the null character is not kept. -/
def inTag (c : Char) : Char :=
  if c = '\x00' then replacementChar else c

/-- A character of a tag's or an attribute's name: names are in lower case. -/
def inName (c : Char) : Char :=
  (inTag c).toLower

/-- A tag of which not all is read yet. -/
structure PartialTag where
  closing : Bool
  /-- The name, its last character first. -/
  name : List Char
  attrs : Attributes

/-- Where in a tag the machine is. Names and values have their last character first. -/
inductive TagPlace where
  | name
  | beforeAttribute
  | attributeName (name : List Char)
  | afterName (name : List Char)
  | beforeValue (name : List Char)
  | quotedValue (name : List Char) (quote : Char) (value : List Char)
  | bareValue (name value : List Char)
  | afterValue
  /-- After a slash that may close the element at once. -/
  | slash

inductive CommentPlace where
  | start
  | startDash
  | body
  | dash
  | dashes
  /-- After two dashes and an exclamation mark. -/
  | bang
  deriving DecidableEq, Repr

inductive State where
  | content
  | tagOpen
  | endTagOpen
  | tag (tag : PartialTag) (place : TagPlace)
  /-- After `<!`, with the characters since then, the last one first. -/
  | declaration (seen : List Char)
  | comment (place : CommentPlace)
  /-- Something that is only understood as a comment, up to the next `>`. -/
  | bogus

structure Tokenizer where
  state : State
  /-- Character data not yet made a token, the last character first. -/
  text : List Char
  /-- The tokens so far, the last one first. -/
  tokens : List Token

namespace PartialTag

/-- The attribute is complete. Of attributes of one name the first stays. -/
def commit (tag : PartialTag) (name value : List Char) : PartialTag :=
  { tag with
    attrs := tag.attrs.insertNew (.ofList name.reverse)
      (.ofList (resolve true value.reverse)) }

def token (tag : PartialTag) (selfClosing : Bool) : Token :=
  let name := String.ofList tag.name.reverse
  if tag.closing then .endTag name else .startTag name tag.attrs selfClosing

end PartialTag

/-- A tag goes on, or it is complete. -/
inductive TagStep where
  | more (tag : PartialTag) (place : TagPlace)
  | complete (tag : PartialTag) (selfClosing : Bool)

/-- Read a character where an attribute may begin. -/
def PartialTag.startAttribute (tag : PartialTag) (c : Char) : TagStep :=
  if isTagSpace c then .more tag .beforeAttribute
  else if c = '/' then .more tag .slash
  else if c = '>' then .complete tag false
  else .more tag (.attributeName [inName c])

def PartialTag.step (tag : PartialTag) (place : TagPlace) (c : Char) : TagStep :=
  match place with
  | .name =>
      if isTagSpace c then .more tag .beforeAttribute
      else if c = '/' then .more tag .slash
      else if c = '>' then .complete tag false
      else .more { tag with name := inName c :: tag.name } .name
  | .beforeAttribute => tag.startAttribute c
  | .attributeName name =>
      if isTagSpace c then .more tag (.afterName name)
      else if c = '/' then .more (tag.commit name []) .slash
      else if c = '>' then .complete (tag.commit name []) false
      else if c = '=' then .more tag (.beforeValue name)
      else .more tag (.attributeName (inName c :: name))
  | .afterName name =>
      if isTagSpace c then .more tag (.afterName name)
      else if c = '=' then .more tag (.beforeValue name)
      else (tag.commit name []).startAttribute c
  | .beforeValue name =>
      if isTagSpace c then .more tag (.beforeValue name)
      else if c = '"' || c = '\'' then .more tag (.quotedValue name c [])
      else if c = '>' then .complete (tag.commit name []) false
      else .more tag (.bareValue name [inTag c])
  | .quotedValue name quote value =>
      if c = quote then .more (tag.commit name value) .afterValue
      else .more tag (.quotedValue name quote (inTag c :: value))
  | .bareValue name value =>
      if isTagSpace c then .more (tag.commit name value) .beforeAttribute
      else if c = '>' then .complete (tag.commit name value) false
      else .more tag (.bareValue name (inTag c :: value))
  | .afterValue => tag.startAttribute c
  | .slash => if c = '>' then .complete tag true else tag.startAttribute c

/-- Read a character inside a comment. There is no further place if the comment ends. -/
def CommentPlace.step? (place : CommentPlace) (c : Char) : Option CommentPlace :=
  match place with
  | .start => if c = '-' then some .startDash else if c = '>' then none else some .body
  | .startDash => if c = '-' then some .dashes else if c = '>' then none else some .body
  | .body => if c = '-' then some .dash else some .body
  | .dash => if c = '-' then some .dashes else some .body
  | .dashes =>
      if c = '>' then none
      else if c = '!' then some .bang
      else if c = '-' then some .dashes
      else some .body
  | .bang => if c = '-' then some .dash else if c = '>' then none else some .body

/-- A declaration is a document type if it begins so, and a comment otherwise. -/
def declarationToken (seen : List Char) : Token :=
  if (Text.dropStart? "doctype".toList (seen.reverse.map Char.toLower)).isSome then .doctype
  else .comment

namespace Tokenizer

def start : Tokenizer := ⟨.content, [], []⟩

/-- The character data so far becomes a token. -/
def flush (m : Tokenizer) : Tokenizer :=
  match m.text with
  | [] => m
  | text =>
      { m with text := [], tokens := .text (.ofList (resolve false text.reverse)) :: m.tokens }

def emit (token : Token) (m : Tokenizer) : Tokenizer :=
  let m := m.flush
  { m with state := .content, tokens := token :: m.tokens }

def readContent (c : Char) (m : Tokenizer) : Tokenizer :=
  if c = '<' then { m with state := .tagOpen }
  else { m with state := .content, text := c :: m.text }

def step (m : Tokenizer) (c : Char) : Tokenizer :=
  match m.state with
  | .content => m.readContent c
  | .tagOpen =>
      if c = '!' then { m with state := .declaration [] }
      else if c = '/' then { m with state := .endTagOpen }
      else if c.isAlpha then { m with state := .tag ⟨false, [inName c], ∅⟩ .name }
      else if c = '?' then { m with state := .bogus }
      else { m with text := '<' :: m.text }.readContent c
  | .endTagOpen =>
      if c.isAlpha then { m with state := .tag ⟨true, [inName c], ∅⟩ .name }
      else if c = '>' then { m.flush with state := .content }
      else { m with state := .bogus }
  | .tag tag place =>
      match tag.step place c with
      | .more tag place => { m with state := .tag tag place }
      | .complete tag selfClosing => m.emit (tag.token selfClosing)
  | .declaration seen =>
      if c = '>' then m.emit (declarationToken seen)
      else if c = '-' && seen == ['-'] then { m with state := .comment .start }
      else { m with state := .declaration (c :: seen) }
  | .comment place =>
      match place.step? c with
      | some place => { m with state := .comment place }
      | none => m.emit .comment
  | .bogus => if c = '>' then m.emit .comment else m

def finish (m : Tokenizer) : List Token :=
  let m := match m.state with
    | .content => m.flush
    | .tagOpen => { m with text := '<' :: m.text }.flush
    | .endTagOpen => { m with text := '/' :: '<' :: m.text }.flush
    | .tag _ _ => m.flush
    | .declaration seen => m.emit (declarationToken seen)
    | .comment _ | .bogus => m.emit .comment
  m.tokens.reverse

end Tokenizer

def tokenize (html : String) : List Token :=
  ((normalizeNewlines html.toList).foldl Tokenizer.step Tokenizer.start).finish

end ArticleTree.Html
