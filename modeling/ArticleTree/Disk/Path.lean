import ArticleTree.Text.Affix

/-! # File paths -/

namespace ArticleTree.Path

/-- The path ends in a slash, so it can only lead to a directory. -/
def endsInSlash (path : String) : Bool :=
  path.toList.getLast? == some '/'

/-- A path as seen from a directory. One that begins with a slash is as it is. -/
def join (directory path : String) : String :=
  if Text.beginsWith "/" path || directory.isEmpty then path
  else if endsInSlash directory then directory ++ path
  else directory ++ "/" ++ path

/-- A path in which a tilde at the beginning stands for the user's own directory. -/
def expand (home path : String) : String :=
  match Text.withoutStart? "~/" path with
  | some rest => join home rest
  | none => path

/-- The names on the way; a dot stands for no step. -/
def steps (path : String) : List String :=
  ((path.toList.splitOn '/').map String.ofList).filter fun name => name != "" && name != "."

/-- The name of the file that a path leads to. -/
def fileName? (path : String) : Option String :=
  match (steps path).getLast? with
  | some name => if name == ".." then none else some name
  | none => none

/-- The name of a file up to its last dot. A dot that it begins with does not count. -/
def stem? (path : String) : Option String := do
  let name ← fileName? path
  let reversed := name.toList.reverse
  match reversed.dropWhile (· != '.') with
  | _ :: c :: before => return .ofList (c :: before).reverse
  | _ => return name

def parent? (path : String) : Option String :=
  let names := steps path
  if names.isEmpty then none
  else
    let root := if Text.beginsWith "/" path then "/" else ""
    some (root ++ "/".intercalate names.dropLast)

end ArticleTree.Path
