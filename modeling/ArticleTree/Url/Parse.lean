import ArticleTree.Url.Basic
import ArticleTree.Url.Domain

/-! # Reading URLs

A URL is read from left to right: the scheme, then, if two slashes follow, the authority,
then the path, the query and the fragment. In special URLs a backslash counts as a slash,
and the slashes before the authority may be any number.
-/

namespace ArticleTree.Url

/-- A slash, or a backslash in a special URL. -/
def isSlash (special : Bool) (c : Char) : Bool :=
  c == '/' || (special && c == '\\')

def endsAuthority (special : Bool) (c : Char) : Bool :=
  isSlash special c || c == '?' || c == '#'

/-- The characters of a URL: those at its ends that cannot be seen do not count. -/
def significant (text : String) : List Char :=
  let isOuter (c : Char) := c.toNat ≤ 0x20
  let trimmed := (text.toList.dropWhile isOuter).reverse.dropWhile isOuter |>.reverse
  trimmed.filter (!isDropped ·)

/-- The scheme in lower case, and what follows its colon. -/
def scheme? (cs : List Char) : Option (String × List Char) :=
  let (scheme, rest) := cs.span fun c => c.isAlphanum || c == '+' || c == '-' || c == '.'
  match scheme, rest with
  | first :: _, ':' :: rest =>
      if first.isAlpha then some (.ofList (scheme.map Char.toLower), rest) else none
  | _, _ => none

/-! ## The authority -/

/-- The characters before and after the last `@`, if there is one. -/
def cutAtUser (cs : List Char) : Option (List Char) × List Char :=
  if cs.contains '@' then
    let reversed := cs.reverse
    let host := (reversed.takeWhile (· != '@')).reverse
    (some (reversed.drop (host.length + 1)).reverse, host)
  else (none, cs)

/-- A user's name and password; an empty password counts as none. -/
def readUser (cs : List Char) : String × Option String :=
  let written (cs : List Char) : String := .ofList (encode EncodeSet.userinfo cs)
  match cs.span (· != ':') with
  | (user, _ :: c :: password) => (written user, some (written (c :: password)))
  | (user, _) => (written user, none)

/-- The characters before the first colon, if there is one, and those from it on. Between
    brackets a colon belongs to the host. -/
def cutAtColon (bracketed : Bool) : List Char → List Char × List Char
  | [] => ([], [])
  | c :: cs =>
      if c = ':' && !bracketed then ([], c :: cs)
      else
        let bracketed := if c = '[' then true else if c = ']' then false else bracketed
        let (host, rest) := cutAtColon bracketed cs
        (c :: host, rest)

def bracketed? (cs : List Char) : Option (Except Malformed (List Char)) :=
  match cs with
  | '[' :: inner =>
      some (if inner.getLast? = some ']' then .ok inner.dropLast else .error .ipv6)
  | _ => none

def readIpv6 (inner : Except Malformed (List Char)) : Except Malformed Host := do
  match ipv6? (← inner) with
  | some pieces => return .ipv6 pieces
  | none => throw .ipv6

def readHost (cs : List Char) : Except Malformed Host := do
  match bracketed? cs with
  | some inner => readIpv6 inner
  | none =>
      let some name := String.fromUTF8? ⟨(decode cs).toArray⟩ | throw .domain
      let some name := asciiName? name | throw .domain
      if name.isEmpty then throw .emptyHost
      else if endsInNumber name then
        let some address := ipv4? name | throw .ipv4
        return .ipv4 address
      else return .name name

/-- The host of a URL that is not special, of which little is asked. -/
def readPlainHost (cs : List Char) : Except Malformed Host := do
  match bracketed? cs with
  | some inner => readIpv6 inner
  | none =>
      if cs.any fun c => "\x00\t\n\r #/:<>?@[\\]^|".toList.contains c then throw .hostCharacter
      else return .name (.ofList (encode EncodeSet.controls cs))

/-- The host of a file. This machine needs no name. -/
def readFileHost (cs : List Char) : Except Malformed Host := do
  if cs.isEmpty then return .name ""
  else
    let host ← readHost cs
    return if host == .name "localhost" then .name "" else host

/-- The number after the host. That of the scheme counts as none. -/
def readPortNumber (scheme : String) (cs : List Char) : Except Malformed (Option Nat) :=
  match cs with
  | [] => .ok none
  | _ =>
      match Text.number? 10 cs with
      | some number =>
          if 0xFFFF < number then .error .portNumber
          else .ok (if defaultPortNumber? scheme = some number then none else some number)
      | none => .error .portNumber

/-- An authority from the characters between the slashes before it and the path. `last`
    says that nothing follows it. -/
def readAuthority (scheme : String) (last : Bool) (cs : List Char) :
    Except Malformed Authority := do
  let special := isSpecialScheme scheme
  let (found, cs) := cutAtUser cs
  let (user, password) := readUser (found.getD [])
  let hasUser := !user.isEmpty || password.isSome
  if found == some [] && cs.isEmpty && !last then throw .emptyHost
  let (host, rest) := cutAtColon false cs
  if special && host.isEmpty then throw .emptyHost
  let host ← if special then readHost host else readPlainHost host
  if host.isEmpty && (!rest.isEmpty || hasUser) then throw .emptyHost
  let number ← readPortNumber scheme rest.tail
  return ⟨user, password, host, number⟩

/-! ## The rest -/

def splitAtSlashes (special : Bool) : List Char → List (List Char)
  | [] => [[]]
  | c :: cs =>
      if isSlash special c then [] :: splitAtSlashes special cs
      else
        match splitAtSlashes special cs with
        | part :: parts => (c :: part) :: parts
        | [] => [[c]]

/-- The segments that characters after a slash stand for. -/
def readSegments (scheme : String) (start : List String) (cs : List Char) : List String :=
  let parts := splitAtSlashes (isSpecialScheme scheme) cs
  tidy scheme (steps scheme start (parts.map fun part => .ofList (encode EncodeSet.path part)))

/-- The characters up to the query or fragment, and the rest. -/
def cutAtQuery (cs : List Char) : List Char × List Char :=
  cs.span fun c => c != '?' && c != '#'

def readQuery (special : Bool) (cs : List Char) : Option String × Option String :=
  let set := if special then EncodeSet.specialQuery else EncodeSet.query
  let fragmentOf (cs : List Char) : Option String :=
    match cs with
    | '#' :: rest => some (.ofList (encode EncodeSet.fragment rest))
    | _ => none
  match cs with
  | '?' :: rest =>
      let (query, rest) := rest.span (· != '#')
      (some (.ofList (encode set query)), fragmentOf rest)
  | _ => (none, fragmentOf cs)

/-- The URL from the end of its authority on. -/
def afterAuthority (scheme : String) (authority : Authority) (cs : List Char) : Url :=
  let special := isSpecialScheme scheme
  let (path, rest) := cutAtQuery cs
  let (query, fragment) := readQuery special rest
  let segments := match path with
    | [] => if special then [""] else []
    | c :: path =>
        if isSlash special c then readSegments scheme [] path
        else readSegments scheme [] (c :: path)
  { scheme, authority := some authority, path := .segments segments, query, fragment }

/-- The URL from the beginning of its authority on. -/
def fromAuthority (scheme : String) (cs : List Char) : Except Malformed Url := do
  let (authority, rest) := cs.span fun c => !endsAuthority (isSpecialScheme scheme) c
  return afterAuthority scheme (← readAuthority scheme rest.isEmpty authority) rest

/-- The URL of a file, from the end of its scheme on. A host follows two slashes, unless
    there the letter of a drive stands. -/
def readFile (cs : List Char) : Except Malformed Url := do
  let nobody : Authority := ⟨"", none, .name "", none⟩
  match cs with
  | a :: b :: rest =>
      if isSlash true a && isSlash true b then
        let (host, after) := rest.span fun c => !endsAuthority true c
        if isDriveLetter (.ofList host) then return afterAuthority "file" nobody rest
        else
          let host ← readFileHost host
          return afterAuthority "file" { nobody with host } after
      else return afterAuthority "file" nobody cs
  | _ => return afterAuthority "file" nobody cs

/-- The URL without an authority, from the end of its scheme on. -/
def withoutAuthority (scheme : String) (cs : List Char) : Url :=
  let (path, rest) := cutAtQuery cs
  let (query, fragment) := readQuery false rest
  let path := match path with
    | '/' :: path => Path.segments (readSegments scheme [] path)
    | path => Path.plain (.ofList (encode EncodeSet.controls path))
  { scheme, authority := none, path, query, fragment }

/-- The URL from the end of its scheme on. -/
def afterScheme (scheme : String) (cs : List Char) : Except Malformed Url :=
  if scheme == "file" then readFile cs
  else if isSpecialScheme scheme then fromAuthority scheme (cs.dropWhile (isSlash true))
  else
    match cs with
    | '/' :: '/' :: rest => fromAuthority scheme rest
    | _ => .ok (withoutAuthority scheme cs)

def parse (text : String) : Except Malformed Url :=
  match scheme? (significant text) with
  | some (scheme, rest) => afterScheme scheme rest
  | none => .error .relative

/-! ## References -/

/-- The URL that a reference without a scheme means, as seen from a special URL. -/
def relativeTo (base : Url) (cs : List Char) : Except Malformed Url :=
  let slashes := cs.takeWhile (isSlash true)
  if 2 ≤ slashes.length then fromAuthority base.scheme (cs.drop slashes.length)
  else
    let (path, rest) := cutAtQuery cs
    let (query, fragment) := readQuery true rest
    let start := match base.path with
      | .segments list => list
      | .plain _ => []
    match path with
    | [] =>
        let query := if rest.head? = some '?' then query else base.query
        .ok { base with query, fragment }
    | c :: after =>
        let segments :=
          if isSlash true c then readSegments base.scheme [] after
          else readSegments base.scheme (shorten base.scheme start) path
        .ok { base with path := .segments segments, query, fragment }

/-- The URL that a reference means, as seen from a special URL. -/
def join (base : Url) (reference : String) : Except Malformed Url :=
  let cs := significant reference
  match scheme? cs with
  | some (scheme, rest) =>
      if scheme == base.scheme && (rest.takeWhile (isSlash true)).length < 2 then
        relativeTo base rest
      else afterScheme scheme rest
  | none => relativeTo base cs

end ArticleTree.Url
