/-! # Blank characters

The characters with the Unicode property `White_Space`, and the ways in which text loses
them: cut off at its ends, or every run of them made one space.
-/

namespace ArticleTree.Text

/-- The character has the Unicode property `White_Space`. -/
def isBlank (c : Char) : Bool :=
  let n := c.toNat
  (9 ≤ n && n ≤ 13) || n == 0x20 || n == 0x85 || n == 0xA0 || n == 0x1680 ||
    (0x2000 ≤ n && n ≤ 0x200A) || n == 0x2028 || n == 0x2029 || n == 0x202F ||
    n == 0x205F || n == 0x3000

/-- The characters from the first that is not blank on. -/
def dropBlanks (cs : List Char) : List Char :=
  cs.dropWhile isBlank

/-- The characters up to the last that is not blank. -/
def dropBlanksAtEnd : List Char → List Char
  | [] => []
  | c :: cs =>
      match dropBlanksAtEnd cs with
      | [] => if isBlank c then [] else [c]
      | kept => c :: kept

/-- Every run of blank characters becomes one space. `inRun` says that the character
    before was blank. -/
def collapseFrom (inRun : Bool) : List Char → List Char
  | [] => []
  | c :: cs =>
      if isBlank c then
        if inRun then collapseFrom true cs else ' ' :: collapseFrom true cs
      else
        c :: collapseFrom false cs

/-- The text without blank characters at its start. -/
def trimStart (s : String) : String :=
  .ofList (dropBlanks s.toList)

/-- The text without blank characters at its end. -/
def trimEnd (s : String) : String :=
  .ofList (dropBlanksAtEnd s.toList)

/-- The text without blank characters at its start and end. -/
def trim (s : String) : String :=
  .ofList (dropBlanksAtEnd (dropBlanks s.toList))

def isBlankText (s : String) : Bool :=
  s.toList.all isBlank

/-- The text with every run of blank characters made one space. -/
def collapse (s : String) : String :=
  .ofList (collapseFrom false s.toList)

end ArticleTree.Text
