import ArticleTree.Command.Run

/-! # The program

Runs the command that the arguments ask for on this machine. Requests to servers go
unanswered from here; what a wiki said before is found in the cache.
-/

namespace ArticleTree

def refused {α : Type} (action : IO α) : IO (Except String α) := do
  match ← action.toBaseIO with
  | .ok value => return .ok value
  | .error reason => return .error (toString reason)

def thisMachine (home : String) : Machine IO where
  home := home
  isThere path := return (← refused (IO.FS.realPath path)).isOk
  read path := refused (IO.FS.readBinFile path)
  write path text := refused (IO.FS.writeFile path text)
  makeDirectories path := refused (IO.FS.createDirAll path)
  send _ := return none
  print text := do
    let out ← IO.getStdout
    out.putStr text
    out.flush
  warn text := IO.eprintln text

end ArticleTree

def main (args : List String) : IO UInt32 := do
  let home := (← IO.getEnv "HOME").getD "."
  let ending ← ArticleTree.Command.runProgram (ArticleTree.thisMachine home) args
  return ending.status.toUInt32
