import ArticleTree.Text.Affix

/-! # Arguments

The arguments of a program are read from left to right. Options begin with hyphens and may stand
anywhere; one hyphen may be followed by the letters of several options, and after two
hyphens alone all that follows are words. The first thing that is wrong, or that asks for
help, ends the reading.
-/

namespace ArticleTree.Command

inductive Takes where
  /-- Nothing; it is given once. -/
  | nothing
  /-- Nothing; it may be given several times. -/
  | counted
  /-- A value that is accepted; it is given once. -/
  | value (accepts : String → Bool)
  /-- Nothing; it ends the reading. -/
  | help
  | version

structure Opt where
  long : String
  short : Option Char
  takes : Takes

/-- Why arguments are not read to their end. -/
inductive Stop where
  | misuse
  | help
  | version
  deriving DecidableEq, Repr

structure Given where
  /-- The names of options with their values, the latest first. -/
  options : List (String × String)
  words : List String
  deriving DecidableEq, Repr

namespace Given

def empty : Given := ⟨[], []⟩

def value? (given : Given) (name : String) : Option String :=
  given.options.lookup name

def has (given : Given) (name : String) : Bool :=
  (given.value? name).isSome

def addOption (opt : Opt) (value : String) (given : Given) : Except Stop Given := do
  let added : Given := { given with options := (opt.long, value) :: given.options }
  match opt.takes with
  | .nothing => if given.has opt.long then throw .misuse else return added
  | .counted => return added
  | .value accepts =>
      if given.has opt.long || !accepts value then throw .misuse else return added
  | .help => throw .help
  | .version => throw .version

end Given

/-- The words that may stand among the arguments. -/
structure Words where
  /-- How many there may be. -/
  most : Option Nat
  accepts : String → Bool

def Opt.takesValue (opt : Opt) : Bool :=
  match opt.takes with
  | .value _ => true
  | _ => false

/-- Read the options that letters stand for. If the last of them takes a value that does
    not follow it, it is given back. -/
def readLetters (opts : List Opt) (given : Given) :
    List Char → Except Stop (Given × Option Opt)
  | [] => .ok (given, none)
  | letter :: letters => do
      let some opt := opts.find? fun opt => opt.short == some letter | throw .misuse
      if opt.takesValue then
        match letters with
        | [] => return (given, some opt)
        | '=' :: value => return (← given.addOption opt (.ofList value), none)
        | value => return (← given.addOption opt (.ofList value), none)
      else readLetters opts (← given.addOption opt "") letters

/-- Read the option that a name stands for, with an equals sign before its value. If its
    value does not follow it, it is given back. -/
def readName (opts : List Opt) (given : Given) (cs : List Char) :
    Except Stop (Given × Option Opt) := do
  let (name, value) := match Text.cutAt? '=' cs with
    | some (name, value) => (name, some (String.ofList value))
    | none => (cs, none)
  let some opt := opts.find? fun opt => opt.long == .ofList name | throw .misuse
  match opt.takesValue, value with
  | true, some value => return (← given.addOption opt value, none)
  | true, none => return (given, some opt)
  | false, some _ => throw .misuse
  | false, none => return (← given.addOption opt "", none)

def Given.addWord (words : Words) (word : String) (given : Given) : Except Stop Given :=
  if words.most.any (· ≤ given.words.length) || !words.accepts word then .error .misuse
  else .ok { given with words := given.words ++ [word] }

/-- Read the option that an argument stands for. If its value does not follow it, it is
    given back. An argument that is a word stands for none. -/
def readOption? (opts : List Opt) (given : Given) (arg : String) :
    Option (Except Stop (Given × Option Opt)) :=
  match arg.toList with
  | '-' :: '-' :: cs => some (readName opts given cs)
  | '-' :: c :: cs => some (readLetters opts given (c :: cs))
  | _ => none

/-- An argument can be the value of the option before it. -/
def isValue (arg : String) : Bool :=
  !Text.beginsWith "-" arg || arg == "-"

/-- Read arguments. Without `words` the reading ends before the first word, and what
    is left is given back. -/
def readArgs (opts : List Opt) (words : Option Words) (given : Given) :
    List String → Except Stop (Given × List String)
  | [] => .ok (given, [])
  | arg :: args =>
      if arg == "--" then
        match words with
        | none => .error .misuse
        | some words => do
            return (← args.foldlM (fun given word => given.addWord words word) given, [])
      else
        match readOption? opts given arg with
        | some step => do
            let (given, waiting) ← step
            match waiting with
            | none => readArgs opts words given args
            | some opt =>
                match args with
                | [] => throw .misuse
                | value :: args =>
                    if isValue value then readArgs opts words (← given.addOption opt value) args
                    else throw .misuse
        | none =>
            match words with
            | none => .ok (given, arg :: args)
            | some limit => do readArgs opts words (← given.addWord limit arg) args

def readLine (opts : List Opt) (words : Words) (args : List String) : Except Stop Given := do
  return (← readArgs opts (some words) .empty args).1

/-- Read arguments up to the first word, and give the word and what follows it. -/
def readUpToWord (opts : List Opt) (args : List String) : Except Stop (String × List String) := do
  match ← readArgs opts none .empty args with
  | (_, word :: args) => return (word, args)
  | (_, []) => throw .misuse

end ArticleTree.Command
