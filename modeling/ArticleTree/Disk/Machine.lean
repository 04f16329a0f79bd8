import ArticleTree.Disk.Basic
import ArticleTree.Machine

/-! # Machines in memory

A machine with a disk in memory, which keeps what was printed. Who answers its requests is
left open.
-/

namespace ArticleTree

structure DiskMachine where
  disk : Disk
  /-- What was printed. -/
  printed : String
  deriving DecidableEq

namespace DiskMachine

/-- Change the disk, unless the change is refused. -/
def change (f : Disk → Except String Disk) : StateM DiskMachine (Except String Unit) := do
  let machine ← get
  match f machine.disk with
  | .ok disk =>
      set { machine with disk }
      return .ok ()
  | .error reason => return .error reason

/-- The machine of a user with this directory, given how requests are answered. -/
def machine (home : String) (server : Http.Request → Option Http.Response) :
    Machine (StateM DiskMachine) where
  home := home
  isThere path := do return (← get).disk.isThere path
  read path := do return (← get).disk.read path
  write path text := change (·.write path text.toUTF8)
  makeDirectories path := change (·.makeDirectories path)
  send request := return server request
  print text := modify fun machine => { machine with printed := machine.printed ++ text }
  warn _ := return ()

end DiskMachine

end ArticleTree
