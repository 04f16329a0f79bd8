import ArticleTree.Settings.Basic
import ArticleTree.Toml.Document
import ArticleTree.Toml.Printer
import ArticleTree.Toml.Record

/-! # Settings in a file

Settings are kept as TOML, with a table for the wiki, one for the cache and one for the
conversion. What is missing has its default, and what is unknown is ignored.
-/

namespace ArticleTree

namespace WikiSettings

def ofToml? (value : Toml) : Option WikiSettings := do
  let defaults : WikiSettings := {}
  match ← value.fieldsOf? ["api_url", "rest_url", "timeout_secs"] with
  | [apiUrl, restUrl, timeout] =>
      return {
        apiUrl := ← Toml.fieldOr Toml.asString? defaults.apiUrl apiUrl
        restUrl := ← Toml.fieldOr Toml.asString? defaults.restUrl restUrl
        timeoutSeconds := ← Toml.fieldOr Toml.asNat? defaults.timeoutSeconds timeout }
  | _ => none

end WikiSettings

namespace CacheSettings

def ofToml? (value : Toml) : Option CacheSettings := do
  let defaults : CacheSettings := {}
  match ← value.fieldsOf? ["enabled", "path"] with
  | [enabled, path] =>
      return {
        enabled := ← Toml.fieldOr Toml.asBoolean? defaults.enabled enabled
        path := ← Toml.fieldOr Toml.asString? defaults.path path }
  | _ => none

end CacheSettings

namespace Options

def ofToml? (value : Toml) : Option Options := do
  let defaults : Options := {}
  match ← value.fieldsOf? ["strip_transclusion_fragments"] with
  | [strip] => return ⟨← Toml.fieldOr Toml.asBoolean? defaults.stripFragments strip⟩
  | _ => none

end Options

namespace Settings

def ofEntries? (entries : Toml.Entries) : Option Settings := do
  let defaults : Settings := {}
  return {
    wiki := ← Toml.fieldOr WikiSettings.ofToml? defaults.wiki (entries.lookup "mediawiki")
    cache := ← Toml.fieldOr CacheSettings.ofToml? defaults.cache (entries.lookup "cache")
    pipeline := ← Toml.fieldOr Options.ofToml? defaults.pipeline (entries.lookup "pipeline") }

def parse? (text : String) : Option Settings := do
  ofEntries? (← Toml.parse? text)

def render (settings : Settings) : String :=
  Toml.printTables
    [("mediawiki",
      [("api_url", Toml.quoted settings.wiki.apiUrl),
        ("rest_url", Toml.quoted settings.wiki.restUrl),
        ("timeout_secs", toString settings.wiki.timeoutSeconds)]),
    ("cache",
      [("enabled", toString settings.cache.enabled),
        ("path", Toml.quoted settings.cache.path)]),
    ("pipeline",
      [("strip_transclusion_fragments", toString settings.pipeline.stripFragments)])]

end Settings

end ArticleTree
