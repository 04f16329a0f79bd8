import ArticleTree.Url.Host
import ArticleTree.Url.Percent

/-! # URLs

A URL in its parts, each of them percent encoded as that part asks for. The path of most
URLs is a list of segments; a URL without one, such as the address of a mailbox, cannot be
gone on from.
-/

namespace ArticleTree

namespace Url

structure Authority where
  user : String
  password : Option String
  host : Host
  /-- The number that the server listens at, if the scheme does not say it anyway. -/
  portNumber : Option Nat
  deriving DecidableEq, Repr

inductive Path where
  /-- Text in which slashes have no meaning. -/
  | plain (text : String)
  /-- Segments, each with a slash before it. -/
  | segments (segments : List String)
  deriving DecidableEq, Repr

end Url

structure Url where
  scheme : String
  authority : Option Url.Authority
  path : Url.Path
  query : Option String
  fragment : Option String
  deriving DecidableEq, Repr

namespace Url

/-- The special schemes, which always name a host and have segments. With each stands the
    number that its servers listen at. -/
def specialSchemes : List (String × Option Nat) :=
  [("http", some 80), ("https", some 443), ("ws", some 80), ("wss", some 443),
    ("ftp", some 21), ("file", none)]

def isSpecialScheme (scheme : String) : Bool :=
  (specialSchemes.lookup scheme).isSome

/-- The number that the servers of a scheme listen at. -/
def defaultPortNumber? (scheme : String) : Option Nat :=
  (specialSchemes.lookup scheme).join

/-! ## Writing -/

/-- The user's name and password, as they stand before the host. -/
def Authority.printUser (authority : Authority) : String :=
  match authority.password with
  | some password => authority.user ++ ":" ++ password ++ "@"
  | none => if authority.user.isEmpty then "" else authority.user ++ "@"

/-- The authority, as it stands in a URL. -/
def Authority.print (authority : Authority) : String :=
  let number := match authority.portNumber with
    | some number => ":" ++ toString number
    | none => ""
  "//" ++ authority.printUser ++ authority.host.print ++ number

/-- The path, as it stands in a URL. -/
def Path.print : Path → String
  | plain text => text
  | segments list => String.join (list.map ("/" ++ ·))

def printQuery (query : Option String) : String :=
  match query with
  | some query => "?" ++ query
  | none => ""

/-- The URL as a text. Without an authority, a path that begins with an empty segment is
    kept apart from the scheme. -/
def print (url : Url) : String :=
  let authority := match url.authority, url.path with
    | some authority, _ => authority.print
    | none, .segments ("" :: _ :: _) => "/."
    | none, _ => ""
  let fragment := match url.fragment with
    | some fragment => "#" ++ fragment
    | none => ""
  url.scheme ++ ":" ++ authority ++ url.path.print ++ printQuery url.query ++ fragment

/-! ## Changing -/

def hasHost (url : Url) : Bool :=
  url.authority.any fun authority => !authority.host.isEmpty

/-- The URL without a user's name and password. -/
def withoutUser (url : Url) : Url :=
  { url with authority := url.authority.map fun authority =>
      { authority with user := "", password := none } }

/-- The URL with fields added to its query. -/
def addQuery (fields : List (String × String)) (url : Url) : Url :=
  let added := form fields
  { url with query := some <| match url.query with
      | none | some "" => added
      | some query => query ++ "&" ++ added }

/-! ## Paths -/

def isSingleDot (segment : String) : Bool :=
  segment.toList.map Char.toLower ∈ [".".toList, "%2e".toList]

/-- The segment means the path without its last segment. -/
def isDoubleDot (segment : String) : Bool :=
  segment.toList.map Char.toLower ∈
    ["..".toList, ".%2e".toList, "%2e.".toList, "%2e%2e".toList]

/-- A letter of a drive, with a colon or a bar after it. -/
def isDriveLetter (segment : String) : Bool :=
  match segment.toList with
  | [letter, mark] => letter.isAlpha && (mark == ':' || mark == '|')
  | _ => false

/-- The path without its last segment. In a file's path the letter of a drive stays. -/
def shorten (scheme : String) (path : List String) : List String :=
  match path with
  | [drive] => if scheme == "file" && isDriveLetter drive then path else []
  | _ => path.dropLast

/-- Go on from a path by a segment. One that means a path and is the last leaves an empty
    segment behind. -/
def step (scheme : String) (last : Bool) (path : List String) (segment : String) :
    List String :=
  let close (path : List String) := if last then path ++ [""] else path
  if isDoubleDot segment then close (shorten scheme path)
  else if isSingleDot segment then close path
  else if scheme == "file" && path.isEmpty && isDriveLetter segment then
    [.ofList (segment.toList.take 1 ++ [':'])]
  else path ++ [segment]

/-- Go on from a path by several segments. -/
def steps (scheme : String) : (path : List String) → (segments : List String) → List String
  | path, [] => path
  | path, [segment] => step scheme true path segment
  | path, segment :: segments => steps scheme (step scheme false path segment) segments

/-- A file's path does not begin with empty segments. -/
def tidy (scheme : String) (path : List String) : List String :=
  if scheme == "file" then
    match path.dropWhile (· == "") with
    | [] => [""]
    | kept => kept
  else path

/-- The characters that are left out of a URL wherever they stand. -/
def isDropped (c : Char) : Bool :=
  c == '\t' || c == '\n' || c == '\r'

/-- Add one segment to a path. A dot and two dots add nothing. The path of a root, which
    is one empty segment, is gone on from as if it had none. -/
def pushSegment (scheme : String) (path : List String) (segment : String) : List String :=
  if segment == "." || segment == ".." then path
  else
    let set := if isSpecialScheme scheme then EncodeSet.specialSegment else EncodeSet.segment
    let written := encode set (segment.toList.filter (!isDropped ·))
    let path := if path == [""] then [] else path
    tidy scheme (step scheme true path (.ofList written))

/-- The path without an empty segment at its end, if that is not all of it. -/
def withoutEmptyEnd (path : List String) : List String :=
  if 2 ≤ path.length && path.getLast? == some "" then path.dropLast else path

/-- Add segments to the path of the URL, if it can be gone on from. -/
def extend? (added : List String) (url : Url) : Option Url :=
  match url.path with
  | .plain _ => none
  | .segments path =>
      let path := added.foldl (pushSegment url.scheme) (withoutEmptyEnd path)
      some { url with path := .segments path }

end Url

end ArticleTree
