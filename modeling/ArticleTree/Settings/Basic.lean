import ArticleTree.Article
import ArticleTree.Url.Parse

/-! # Settings

Which wiki is asked, where answers are kept, and how articles are converted.
-/

namespace ArticleTree

structure WikiSettings where
  /-- Where the source of articles is asked for. -/
  apiUrl : String := "https://de.wikibooks.org/w/api.php"
  /-- Below this address markup is rendered. -/
  restUrl : String := "https://de.wikibooks.org/api/rest_v1"
  /-- How long to wait for an answer. -/
  timeoutSeconds : Nat := 30
  deriving DecidableEq, Repr

structure CacheSettings where
  /-- Keep answers from one run to the next. -/
  enabled : Bool := true
  /-- The file that they are kept in. -/
  path : String := "~/.mfnf/cache.db"
  deriving DecidableEq, Repr

structure Settings where
  wiki : WikiSettings := {}
  cache : CacheSettings := {}
  pipeline : Options := {}
  deriving DecidableEq, Repr

/-- The URL that a setting of the wiki holds. -/
def readEndpoint (setting value : String) : Except Failure Url :=
  match Url.parse value with
  | .ok url => .ok url
  | .error reason =>
      .error <| .config
        ("mediawiki." ++ setting ++ " '" ++ value ++ "' is not a URL: " ++ reason.message)

namespace WikiSettings

/-- Where sources are asked for, and below which address markup is rendered. -/
def endpoints (settings : WikiSettings) : Except Failure (Url × Url) := do
  let api ← readEndpoint "api_url" settings.apiUrl
  let rest ← readEndpoint "rest_url" settings.restUrl
  return (api, rest)

def validate (settings : WikiSettings) : Except Failure Unit := do
  let _ ← settings.endpoints

end WikiSettings

end ArticleTree
