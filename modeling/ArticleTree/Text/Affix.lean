/-! # Beginnings, ends and lines of text

Cutting a known beginning or end off a text, and cutting a text at a character or into
its lines.
-/

namespace ArticleTree.Text

/-- What follows `start` in the characters, if they begin with it. -/
def dropStart? : (start cs : List Char) → Option (List Char)
  | [], cs => some cs
  | _ :: _, [] => none
  | a :: as, c :: cs => if a = c then dropStart? as cs else none

/-- What comes before `ending` in the characters, if they end with it. -/
def dropEnding? (ending cs : List Char) : Option (List Char) :=
  (dropStart? ending.reverse cs.reverse).map List.reverse

def beginsWith (start s : String) : Bool :=
  (dropStart? start.toList s.toList).isSome

/-- The text without `start` at its beginning, if it begins so. -/
def withoutStart? (start s : String) : Option String :=
  (dropStart? start.toList s.toList).map .ofList

/-- The text without `start` at its beginning, or the whole text. -/
def withoutStart (start s : String) : String :=
  (withoutStart? start s).getD s

/-- The text without `ending` at its end, or the whole text. -/
def withoutEnding (ending s : String) : String :=
  ((dropEnding? ending.toList s.toList).map .ofList).getD s

/-- The characters `needle` occur one after the other in `cs`. -/
def occursIn (needle : List Char) : List Char → Bool
  | [] => needle.isEmpty
  | c :: cs => (dropStart? needle (c :: cs)).isSome || occursIn needle cs

def contains (needle s : String) : Bool :=
  occursIn needle.toList s.toList

/-- The parts before and after the first `mark`, if there is one. -/
def cutAt? (mark : Char) : List Char → Option (List Char × List Char)
  | [] => none
  | c :: cs =>
      if c = mark then some ([], cs)
      else (cutAt? mark cs).map fun (before, after) => (c :: before, after)

/-- The lines of the characters. `line` holds the line begun so far, latest character
    first. A line ends at a line feed, and a carriage return before it belongs to the
    line's end; characters after the last line feed are a line only if there are any. -/
def linesFrom (line : List Char) : List Char → List (List Char)
  | [] => if line.isEmpty then [] else [line.reverse]
  | c :: cs =>
      if c = '\n' then
        let line := if line.head? = some '\r' then line.tail else line
        line.reverse :: linesFrom [] cs
      else
        linesFrom (c :: line) cs

def lines (s : String) : List String :=
  (linesFrom [] s.toList).map .ofList

end ArticleTree.Text
