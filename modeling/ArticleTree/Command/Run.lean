import ArticleTree.Article
import ArticleTree.Command.Line
import ArticleTree.Command.Service
import ArticleTree.Command.Slug
import ArticleTree.Digest.Sha256
import ArticleTree.Json.Tree
import ArticleTree.Settings.File

/-! # Running commands

Articles are converted one after the other. One that cannot be converted does not keep
the command from the others, but the command fails in the end. Only a conversion that never
stops to find content in content brings the whole program down.
-/

namespace ArticleTree

inductive Ending where
  | success
  | failure
  /-- The command line asks for nothing that the program can do. -/
  | misuse
  /-- The program ran out of stack in a conversion, and was ended there. -/
  | aborted
  deriving DecidableEq, Repr

/-- The exit status; that of an aborted program is the one that a shell gives it. -/
def Ending.status : Ending → Nat
  | success => 0
  | failure => 1
  | misuse => 2
  | aborted => 134

/-- How a command ends after so many of its articles failed, if it came to count them. -/
def Ending.ofFailed : Option Nat → Ending
  | some 0 => success
  | some (_ + 1) => failure
  | none => aborted

def Article.render (article : Article) : String :=
  article.toJson.pretty

namespace Command

variable {m : Type → Type} [Monad m]

/-- Print an article, or write it to a file of a directory. -/
def deliver (machine : Machine m) (out : Option String) (article : Article) :
    ExceptT Failure m Unit :=
  match out with
  | none => machine.printLine article.render
  | some directory =>
      machine.writeText (Path.join directory (slug article.title ++ ".json")) article.render

/-- Convert articles, and count those that cannot be converted. There is no count if one goes too
    deep: the articles after it are not converted at all. -/
def convertAll (machine : Machine m) (options : Options) (out : Option String) :
    List String → Service → ExceptT Failure m (Option Nat)
  | [], _ => return some 0
  | title :: titles, service => do
      let (outcome, service) ← service.convert machine (Article.load options { title })
      match outcome with
      | .ok article =>
          deliver machine out article
          convertAll machine options out titles service
      | .failed _ => return (← convertAll machine options out titles service).map (· + 1)
      | .tooDeep => return none

def runParse (machine : Machine m) (titles : List String) (out : Option String)
    (useCache : Bool) : ExceptT Failure m Ending := do
  let settings ← Settings.load machine
  let service ← Service.openFor machine settings useCache
  if let some directory := out then machine.needDirectory directory
  return .ofFailed (← convertAll machine settings.pipeline out titles service)

/-- Convert a file of rendered markup. Without a title the file's name counts. -/
def runHtml (machine : Machine m) (file : String) (title : Option String) :
    ExceptT Failure m Ending := do
  let html ← machine.readText file
  let some title := title <|> Path.stem? file
    | throw (.config ("cannot derive a title from " ++ file))
  let settings ← Settings.load machine
  let service ← Service.openFor machine settings true
  let (outcome, _) ← service.convert machine <|
    Article.parseRendered settings.pipeline { title } html
  match outcome with
  | .ok content =>
      machine.printLine (Article.render ⟨title, content⟩)
      return .success
  | .failed reason => throw reason
  | .tooDeep => return .aborted

def run (machine : Machine m) : Command → ExceptT Failure m Ending
  | parse titles out useCache => runParse machine titles out useCache
  | html file title => runHtml machine file title
  | initSettings => do
      let path ← Settings.initialise machine
      machine.printLine ("Config initialized at: " ++ path)
      return .success
  | showSettings => do
      let settings ← Settings.load machine
      machine.printLine settings.render
      return .success

/-- The name and the version of the program. -/
def version : String := "mfnf 0.1.0"

def usage : String :=
  "Usage: mfnf [--log-format text|json] [-v] parse TITLE... [-o DIR] [--no-cache]\n" ++
  "       mfnf [--log-format text|json] [-v] html FILE [-t TITLE]\n" ++
  "       mfnf [--log-format text|json] [-v] config init|show"

def runProgram (machine : Machine m) (args : List String) : m Ending := do
  match read args with
  | .error .misuse =>
      machine.warn usage
      return .misuse
  | .error .help =>
      machine.print (usage ++ "\n")
      return .success
  | .error .version =>
      machine.print (version ++ "\n")
      return .success
  | .ok command =>
      match ← (run machine command).run with
      | .ok ending => return ending
      | .error reason =>
          machine.warn reason.message
          return .failure

end Command

end ArticleTree
