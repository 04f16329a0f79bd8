import ArticleTree.Command.Arguments

/-! # Command lines

The commands of the program, and how they are written.
-/

namespace ArticleTree

inductive Command where
  /-- Convert articles of the wiki. The trees are printed, or written to files of a
      directory. -/
  | parse (titles : List String) (out : Option String) (useCache : Bool)
  /-- Convert a file of rendered markup. -/
  | html (file : String) (title : Option String)
  /-- Write the default settings. -/
  | initSettings
  /-- Print the settings. -/
  | showSettings
  deriving DecidableEq, Repr

namespace Command

def anyText (_ : String) : Bool := true

def isPath (text : String) : Bool :=
  !text.isEmpty

def commonOptions : List Opt :=
  [⟨"log-format", none, .value fun text => text == "text" || text == "json"⟩,
    ⟨"verbose", some 'v', .counted⟩, ⟨"help", some 'h', .help⟩]

def programOptions : List Opt :=
  ⟨"version", some 'V', .version⟩ :: commonOptions

def parseOptions : List Opt :=
  ⟨"out", some 'o', .value isPath⟩ :: ⟨"no-cache", none, .nothing⟩ :: commonOptions

/-- The options of the conversion of a file. -/
def htmlOptions : List Opt :=
  ⟨"title", some 't', .value anyText⟩ :: commonOptions

def noWords : Words := ⟨some 0, anyText⟩

/-- Read what follows the name of the command that converts articles. -/
def readParse (args : List String) : Except Stop Command := do
  let given ← readLine parseOptions ⟨none, anyText⟩ args
  if given.words.isEmpty then throw .misuse
  else return .parse given.words (given.value? "out") (!given.has "no-cache")

/-- Read what follows the name of the command that converts a file. -/
def readHtml (args : List String) : Except Stop Command := do
  let given ← readLine htmlOptions ⟨some 1, isPath⟩ args
  match given.words with
  | [file] => return .html file (given.value? "title")
  | _ => throw .misuse

def readBare (command : Command) (args : List String) : Except Stop Command := do
  let _ ← readLine commonOptions noWords args
  return command

/-- The names after a wish for help must name a command. -/
def readHelp (isCommand : List String → Bool) (args : List String) : Except Stop Command :=
  .error (if isCommand args then .help else .misuse)

/-- The names name a command for the settings. -/
def namesConfigCommand (names : List String) : Bool :=
  names ∈ [[], ["init"], ["show"], ["help"]]

def namesCommand : List String → Bool
  | "config" :: names => namesConfigCommand names
  | names => names ∈ [[], ["parse"], ["html"], ["help"]]

/-- Read what follows the name of the commands for the settings. -/
def readConfig (args : List String) : Except Stop Command := do
  let (name, args) ← readUpToWord commonOptions args
  match name with
  | "init" => readBare .initSettings args
  | "show" => readBare .showSettings args
  | "help" => readHelp namesConfigCommand args
  | _ => throw .misuse

/-- The command that the arguments of the program ask for. -/
def read (args : List String) : Except Stop Command := do
  let (name, args) ← readUpToWord programOptions args
  match name with
  | "parse" => readParse args
  | "html" => readHtml args
  | "config" => readConfig args
  | "help" => readHelp namesCommand args
  | _ => throw .misuse

end Command

end ArticleTree
