import ArticleTree.Text.Letter

/-! # File names of articles

The file of an article is named by the words of its title in lower case. Words are made
of letters, numbers and hyphens, and an underscore stands between two words.
-/

namespace ArticleTree.Command

def isWordChar (c : Char) : Bool :=
  Text.isLetterOrNumber c || c == '-'

def wordsOf (cs : List Char) : List (List Char) :=
  (cs.splitOnP fun c => !isWordChar c).filter fun word => !word.isEmpty

def slug (title : String) : String :=
  .ofList (List.intercalate ['_'] (wordsOf (title.toList.flatMap Text.lower)))

end ArticleTree.Command
