import ArticleTree.Json.Written

/-! # Replies of the wiki

Asked for the source of an article, the wiki replies with a list of pages, of which the
first counts. A page that the wiki does not have is marked as missing.
-/

namespace ArticleTree.Wiki

open Json (Written)

/-- The items of a field that may be missing. -/
def optionalItems? {α : Type} (read : Written → Option α) (field : Option Written) :
    Option (List α) :=
  match field with
  | none => some []
  | some value => do (← value.items?).mapM read

/-- The one field of a record, which must not be missing. -/
def onlyField? (name : String) (value : Written) : Option Written := do
  match ← value.record? [name] with
  | [some field] => some field
  | _ => none

def revisionSource? (value : Written) : Option String := do
  (← onlyField? "content" (← onlyField? "main" (← onlyField? "slots" value))).text?

/-- The source of a page, or none if the wiki does not have it. -/
def pageSource? (value : Written) : Option (Option String) := do
  match ← value.record? ["missing", "revisions"] with
  | [missing, revisions] =>
      let isMissing ← match missing with
        | none => some false
        | some (.bool value) => some value
        | some _ => none
      let sources ← optionalItems? revisionSource? revisions
      return if isMissing then none else sources.head?
  | _ => none

/-- The sources of the pages that were asked for. -/
def querySources? (value : Written) : Option (List (Option String)) := do
  match ← value.record? ["pages"] with
  | [pages] => optionalItems? pageSource? pages
  | _ => none

/-- The source that a reply holds, or none if the wiki does not have the article. A reply
    that is no list of pages is refused. -/
def replySource? (text : String) : Option (Option String) := do
  let value ← Written.parse? text
  match value, ← value.record? ["query"] with
  | .array [], _ => none
  | _, [none] | _, [some .null] => some none
  | _, [some query] => return (← querySources? query).head?.join
  | _, _ => none

end ArticleTree.Wiki
