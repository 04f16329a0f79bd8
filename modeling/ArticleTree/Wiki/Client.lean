import ArticleTree.Settings.Basic
import ArticleTree.Text.Utf8
import ArticleTree.Wiki.Http
import ArticleTree.Wiki.Reply

/-! # The wiki as a content service

The source of an article is a query at one address of the wiki. Markup is rendered at
another address, below which the URL names the article.
-/

namespace ArticleTree.Wiki

structure Client where
  api : Url
  rest : Url
  deriving DecidableEq, Repr

/-- How often a request may be sent on. -/
def maxRedirects : Nat := 3

/-- What came in, with a mark in place of bytes that are no text. -/
def readable (bytes : ByteArray) : String :=
  Text.decodeUtf8 bytes.toList

namespace Client

def ofSettings (settings : WikiSettings) : Except Failure Client := do
  let (api, rest) ← settings.endpoints
  return ⟨api, rest⟩

/-- The fields of the query for an article's source. -/
def queryFields (title : String) : List (String × String) :=
  [("action", "query"), ("prop", "revisions"), ("rvprop", "content"), ("rvslots", "main"),
    ("format", "json"), ("formatversion", "2"), ("titles", title)]

def contentRequest (client : Client) (title : String) : Http.Request :=
  let url := client.api.withoutUser
  { method := .get
    url := if url.hasHost then url.addQuery (queryFields title) else url
    body := none }

/-- Where the markup of an article is rendered. -/
def renderUrl (client : Client) (title : String) : Except Failure Url :=
  match client.rest.extend? ["transform", "wikitext", "to", "html", title] with
  | some url => .ok url
  | none => .error (.config ("rest_url " ++ client.rest.print ++ " cannot be a base"))

def renderRequest (url : Url) (text : String) : Http.Request :=
  { method := .post
    url := url.withoutUser
    body := some (Url.form [("wikitext", text), ("body_only", "true")]) }

variable {m : Type → Type} [Monad m]

/-- Send a request on behalf of a URL, and read the body of a successful answer. -/
def ask (send : Http.Request → m (Option Http.Response)) (url : Url) (request : Http.Request)
    (read : Http.Response → Answer) : m Answer := do
  match ← Http.exchange send maxRedirects request with
  | .error trouble => return .error (.network (url.print ++ ": " ++ trouble.message))
  | .ok response =>
      return if response.isSuccess then read response
        else .error (.network (url.print ++ ": HTTP " ++ response.statusLine))

def getContent (send : Http.Request → m (Option Http.Response)) (client : Client)
    (title : String) : m Answer :=
  ask send client.api (client.contentRequest title) fun response =>
    let reply := if response.complete then
        (String.fromUTF8? response.body).bind replySource?
      else none
    match reply with
    | some (some source) => .ok source
    | some none => .error (.notFound title)
    | none => .error (.network (client.api.print ++ ": unexpected response"))

/-- The rendering of markup as a part of an article. -/
def renderHtml (send : Http.Request → m (Option Http.Response)) (client : Client)
    (title text : String) : m Answer :=
  match client.renderUrl title with
  | .error reason => return .error reason
  | .ok url =>
      ask send url (renderRequest url text) fun response =>
        if response.complete then .ok (readable response.body)
        else .error (.network (url.print ++ ": failed to read body"))

def answer (send : Http.Request → m (Option Http.Response)) (client : Client) :
    Call → m Answer
  | .getContent title => client.getContent send title
  | .renderHtml title text => client.renderHtml send title text

end Client

end ArticleTree.Wiki
