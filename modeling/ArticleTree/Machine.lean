import ArticleTree.Failure
import ArticleTree.Wiki.Http

/-! # Machines

What a command needs of the machine that it runs on: files, servers, and a place to print
to. Commands are written against this list alone, so they run on a real machine as well
as on one that is only held in memory.
-/

namespace ArticleTree

/-- A machine, whose actions have the effect `m`. Where it refuses something, it gives the
    reason as a text. -/
structure Machine (m : Type → Type) where
  /-- The user's own directory. -/
  home : String
  /-- Something stands at a path. -/
  isThere : (path : String) → m Bool
  /-- What a file holds. -/
  read : (path : String) → m (Except String ByteArray)
  /-- Make or replace a file. -/
  write : (path text : String) → m (Except String Unit)
  /-- Make a directory, and those on the way to it. -/
  makeDirectories : (path : String) → m (Except String Unit)
  /-- Have a server answer a request. -/
  send : Http.Request → m (Option Http.Response)
  /-- Print a text. -/
  print : (text : String) → m Unit
  /-- Tell the user what went wrong. -/
  warn : (text : String) → m Unit

namespace Machine

variable {m : Type → Type} [Monad m]

/-- Fail as the machine refuses something about a path. -/
def orFail {α : Type} (path : String) (action : m (Except String α)) : ExceptT Failure m α :=
  ExceptT.mk do
    match ← action with
    | .ok value => return .ok value
    | .error reason => return .error (.io path reason)

def readText (machine : Machine m) (path : String) : ExceptT Failure m String := do
  let bytes ← orFail path (machine.read path)
  match String.fromUTF8? bytes with
  | some text => return text
  | none => throw (.io path "stream did not contain valid UTF-8")

def writeText (machine : Machine m) (path text : String) : ExceptT Failure m Unit :=
  orFail path (machine.write path text)

/-- Make a directory, and those on the way to it. -/
def needDirectory (machine : Machine m) (path : String) : ExceptT Failure m Unit :=
  orFail path (machine.makeDirectories path)

def printLine (machine : Machine m) (text : String) : ExceptT Failure m Unit :=
  machine.print (text ++ "\n")

end Machine

end ArticleTree
