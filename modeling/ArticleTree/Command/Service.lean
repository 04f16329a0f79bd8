import ArticleTree.Cache.Memo
import ArticleTree.Disk.Path
import ArticleTree.Machine
import ArticleTree.Settings.Document
import ArticleTree.Wiki.Client

/-! # The service of a command

A command asks the wiki through a cache. If the settings and the command line allow it,
the cache is kept in a file and found there by the next command.
-/

namespace ArticleTree.Command

structure Service where
  client : Wiki.Client
  memo : Cache.Memo
  /-- The file that the cache is kept in. -/
  file : Option String
  deriving DecidableEq

namespace Service

def isNowhere (path : String) : Bool :=
  path.isEmpty || path == ":memory:"

variable {m : Type → Type} [Monad m]

/-- Open the store in a file, which is made if it is missing. -/
def openStore (machine : Machine m) (path : String) : ExceptT Failure m Cache.Store := do
  if let some directory := Path.parent? path then machine.needDirectory directory
  if ← machine.isThere path then
    match Cache.Store.openFrom (some (← machine.readText path)) with
    | .ok store => return store
    | .error reason => throw reason
  else
    machine.writeText path Cache.Store.empty.render
    return .empty

def openFor (machine : Machine m) (settings : Settings) (useCache : Bool) :
    ExceptT Failure m Service := do
  let client ← match Wiki.Client.ofSettings settings.wiki with
    | .ok client => pure client
    | .error reason => throw reason
  let path := Path.expand machine.home settings.cache.path
  if settings.cache.enabled && useCache && !isNowhere path then
    return ⟨client, .fresh (← openStore machine path), some path⟩
  else return ⟨client, .fresh .empty, none⟩

/-- Answer a call, from the cache if possible. -/
def answer (machine : Machine m) (client : Wiki.Client) (call : Call) :
    StateT Cache.Memo m Answer :=
  StateT.mk fun memo => memo.answer Digest.ofText (client.answer machine.send) call

/-- Keep the cache in its file, unless nothing was added to it. -/
def save (machine : Machine m) (before : Service) (after : Service) : ExceptT Failure m Unit :=
  match after.file with
  | none => pure ()
  | some path =>
      if before.memo.store.size = after.memo.store.size then pure ()
      else machine.writeText path after.memo.store.render

def convert {α : Type} (machine : Machine m) (service : Service) (session : Session α) :
    ExceptT Failure m (Outcome α × Service) := do
  let run := session.runM (answer machine service.client)
  let (outcome, memo) ← ExceptT.lift (run.run service.memo)
  let after := { service with memo }
  save machine service after
  return (outcome, after)

end Service

end ArticleTree.Command
