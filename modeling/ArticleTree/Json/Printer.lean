import ArticleTree.Json.Value
import ArticleTree.Text.Digits

/-! # Writing JSON -/

namespace ArticleTree.Json

def printChar (c : Char) : List Char :=
  if c = '"' then ['\\', '"']
  else if c = '\\' then ['\\', '\\']
  else if c = '\n' then ['\\', 'n']
  else if c = '\r' then ['\\', 'r']
  else if c = '\t' then ['\\', 't']
  else if c = '\x08' then ['\\', 'b']
  else if c = '\x0c' then ['\\', 'f']
  else if c.toNat < 0x20 then ['\\', 'u'] ++ Text.paddedDigits 4 16 c.toNat
  else [c]

def printString (s : String) : String :=
  .ofList ('"' :: s.toList.flatMap printChar ++ ['"'])

mutual

def compact : Json → String
  | null => "null"
  | bool value => if value then "true" else "false"
  | integer value => toString value
  | real literal => literal
  | string value => printString value
  | array items => "[" ++ ",".intercalate (compactItems items) ++ "]"
  | object fields => "\x7b" ++ ",".intercalate (compactFields fields) ++ "\x7d"

/-- The items of an array, each on its own. -/
def compactItems : List Json → List String
  | [] => []
  | item :: items => item.compact :: compactItems items

/-- The fields of an object, each on its own. -/
def compactFields : List (String × Json) → List String
  | [] => []
  | (name, value) :: fields =>
      (printString name ++ ":" ++ value.compact) :: compactFields fields

end

/-- A new line that is indented by two spaces for each level. -/
def newLine (level : Nat) : String :=
  .ofList ('\n' :: List.replicate (2 * level) ' ')

/-- Parts between brackets, each on a line of its own. -/
def inLines (level : Nat) (opening closing : String) (parts : List String) : String :=
  if parts.isEmpty then opening ++ closing
  else
    opening ++ newLine (level + 1) ++ ("," ++ newLine (level + 1)).intercalate parts ++
      newLine level ++ closing

mutual

def prettyAt (level : Nat) : Json → String
  | null => "null"
  | bool value => if value then "true" else "false"
  | integer value => toString value
  | real literal => literal
  | string value => printString value
  | array items => inLines level "[" "]" (prettyItems level items)
  | object fields => inLines level "\x7b" "\x7d" (prettyFields level fields)

/-- The items of an array, each on its own. -/
def prettyItems (level : Nat) : List Json → List String
  | [] => []
  | item :: items => item.prettyAt (level + 1) :: prettyItems level items

/-- The fields of an object, each on its own. -/
def prettyFields (level : Nat) : List (String × Json) → List String
  | [] => []
  | (name, value) :: fields =>
      (printString name ++ ": " ++ value.prettyAt (level + 1)) :: prettyFields level fields

end

def pretty (value : Json) : String :=
  value.prettyAt 0

end ArticleTree.Json
