import ArticleTree.Disk.Path
import ArticleTree.Machine
import ArticleTree.Settings.Document

/-! # The settings of a user

Settings are kept in a file below the user's own directory. Where there is none, the
defaults hold.
-/

namespace ArticleTree.Settings

def directory (home : String) : String :=
  Path.join home ".mfnf"

def file (home : String) : String :=
  Path.join (directory home) "mfnf.toml"

/-- The settings that a file's text stands for, if the wiki can be asked with them. -/
def accept (path text : String) : Except Failure Settings := do
  match parse? text with
  | none => throw (.config ("failed to parse " ++ path))
  | some settings =>
      settings.wiki.validate
      return settings

variable {m : Type → Type} [Monad m]

def loadFrom (machine : Machine m) (path : String) : ExceptT Failure m Settings := do
  let text ← machine.readText path
  liftExcept (accept path text)
where
  /-- End with the value or the failure. -/
  liftExcept {α : Type} (outcome : Except Failure α) : ExceptT Failure m α :=
    ExceptT.mk (pure outcome)

def load (machine : Machine m) : ExceptT Failure m Settings := do
  let path := file machine.home
  if ← machine.isThere path then loadFrom machine path else return {}

/-- Write the defaults to the file of the settings, and give its path. -/
def initialise (machine : Machine m) : ExceptT Failure m String := do
  machine.needDirectory (directory machine.home)
  let path := file machine.home
  machine.writeText path ({} : Settings).render
  return path

end ArticleTree.Settings
