import ArticleTree.Json.Written
import ArticleTree.Pass.Walk
import ArticleTree.Text.Blank

/-! # Galleries

A renderer keeps the source of a gallery as JSON beside the list that it makes of it. The
source has a line for each item, with the name of the file and a caption, divided by a
bar. What is wrong with a gallery becomes a visible error in its place, unless a caption is
rendered to HTML that is not balanced.
-/

namespace ArticleTree.Markup

/-- The source of a gallery, as a renderer keeps it. -/
structure GallerySource where
  text : String
  /-- The attributes, in the order in which they were written. -/
  attrs : List (String × Json)

/-- The source that a value stands for. -/
def gallerySource? (written : Json.Written) : Option GallerySource := do
  match ← written.record? ["body", "attrs"] with
  | [some body, attrs] =>
      match ← body.record? ["extsrc"] with
      | [some text] =>
          let text ← text.text?
          match attrs with
          | none => return ⟨text, []⟩
          | some attrs =>
              match ← attrs.value? (Json.maxNesting - 1) with
              | .object fields => return ⟨text, fields⟩
              | _ => none
      | _ => none
  | _ => none

/-- Read the source kept beside a gallery. -/
def readGallery? (kept : Option String) : Option GallerySource := do
  gallerySource? (← Json.Written.parse? (← kept))

/-- A size that a gallery does not set. -/
def defaultSize : UInt32 := 120

/-- The text without any units at its end. -/
def withoutUnits : (reversed : List Char) → List Char
  | 'x' :: 'p' :: rest => withoutUnits rest
  | rest => rest.reverse

/-- A size in pixels that a text stands for. The unit may follow the number, and a plus
    sign may stand before it. -/
def sizeOfText? (text : String) : Option Nat :=
  match withoutUnits (Text.trim text).toList.reverse with
  | '+' :: digits => Text.number? 10 digits
  | digits => Text.number? 10 digits

/-- A size that an attribute sets. -/
def sizeOf? : Json → Option Nat
  | .integer value => if 0 ≤ value then some value.toNat else none
  | .string text => sizeOfText? text
  | _ => none

/-- The width or height of a gallery's images. -/
def GallerySource.size (source : GallerySource) (key : String) : UInt32 :=
  match ((Json.object source.attrs).field? key).bind sizeOf? with
  | some n => if n < UInt32.size then .ofNat n else defaultSize
  | none => defaultSize

/-- The lines of a gallery that stand for items. -/
def GallerySource.lines (source : GallerySource) : List String :=
  (Text.lines (Text.trim source.text)).filter fun line => !Text.isBlankText line

/-- The children of the one paragraph that a caption must be. -/
def captionOf (content : Forest) : Except Failure Forest :=
  match content with
  | [node] => do
      Guard.ensure [.element "p"] node
      return node.children?.getD []
  | _ => .error <| .structural
      ("expected a single paragraph, found " ++ toString content.length ++ " nodes")

/-- Parse text that must render to one paragraph. -/
def inlineContent (parse : String → Session Forest) (text : String) : Session Forest := do
  .ofExcept (captionOf (← parse text))

/-- What stands in the place of a caption that is no inline content. -/
def captionError (reason : Failure) : Option Node :=
  if reason.isStructural then
    some (.error ("Gallery caption must be inline content: " ++ reason.message))
  else none

/-- The item of a line. -/
def galleryItem (parse : String → Session Forest) (line : String) : Session Node :=
  match Text.cutAt? '|' line.toList with
  | none => return .error "Gallery item needs a caption"
  | some (name, caption) =>
      Session.recover captionError do
        let caption ← inlineContent parse (.ofList caption)
        return .galleryItem (Text.trim (.ofList name)) caption

/-- The gallery of a source. -/
def GallerySource.gallery (parse : String → Session Forest) (source : GallerySource) :
    Session Node := do
  let children ← source.lines.mapM (galleryItem parse)
  return .gallery (source.size "widths") (source.size "heights") children

/-- The node is the list that a renderer makes of a gallery. -/
def isGallery (node : Node) : Bool :=
  Guard.passes [.element "ul", .attr "typeof" "mw:Extension/gallery"] node

/-- Put the gallery in the place of the list made of it. -/
def recoverGallery (parse : String → Session Forest) (node : Node) : Session Node :=
  match readGallery? (node.attr? "data-mw") with
  | none => return .error "Gallery metadata is malformed"
  | some source => source.gallery parse

/-- Every rendered gallery becomes a gallery. -/
def galleries (parse : String → Session Forest) : Pass :=
  .rules "galleries" [⟨isGallery, fun _ node => return .done (← recoverGallery parse node)⟩]

end ArticleTree.Markup
