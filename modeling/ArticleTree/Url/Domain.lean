import ArticleTree.Text.Affix
import ArticleTree.Text.Graphic
import ArticleTree.Text.Letter
import ArticleTree.Url.Punycode

/-! # Domain names

A domain name is made of labels with dots between them. It is brought to lower case, and
its labels with characters outside ASCII are written in Punycode.
-/

namespace ArticleTree.Url

def ignoredInNames : List (Nat × Nat) := [
    (0xad, 0xad), (0x34f, 0x34f), (0x115f, 0x1160), (0x17b4, 0x17b5), (0x180b, 0x180f),
    (0x200b, 0x200b), (0x2060, 0x2064), (0x206a, 0x206f), (0x3164, 0x3164), (0xfe00, 0xfe0f),
    (0xfeff, 0xfeff), (0xffa0, 0xffa0), (0x1bca0, 0x1bca3), (0x1d173, 0x1d17a),
    (0xe0100, 0xe01ef)]

def isDenied (c : Char) : Bool :=
  c.toNat ≤ 0x20 || c.toNat == 0x7F || "%#/:<>?@[\\]^|".toList.contains c

/-- The letters, digits and marks that come of a character of a name. -/
def foldNameChar? (c : Char) : Option (List Char) :=
  if c.toNat < 0x80 then if isDenied c then none else some [c.toLower]
  else if Text.inRanges ignoredInNames c then some []
  else if c = '\u3002' || c = '\uFF0E' || c = '\uFF61' then some ['.']
  else if '\uFF01' ≤ c && c ≤ '\uFF5E' then
    let narrow := Char.ofNat (c.toNat - 0xFF01 + 0x21)
    if isDenied narrow then none else some [narrow.toLower]
  else if Text.isLetterOrNumber c || Text.isGraphic c then some (Text.lower c)
  else none

/-- The mark of a label that is written in Punycode. -/
def punycodeMark : List Char := "xn--".toList

/-- A label that folding leaves as it is, and that needs Punycode. -/
def isForeignLabel (label : List Char) : Bool :=
  label.any (fun c => 0x80 ≤ c.toNat) &&
    label.all fun c => c != '.' && foldNameChar? c == some [c]

def asciiLabel? (label : List Char) : Option (List Char) :=
  match Text.dropStart? punycodeMark label with
  | some written =>
      if label.all (fun c => c.toNat < 0x80) then
        match Punycode.decode? written with
        | some decoded => if isForeignLabel decoded then some label else none
        | none => none
      else none
  | none =>
      if label.all fun c => c.toNat < 0x80 then some label
      else some (punycodeMark ++ Punycode.encode label)

/-- A name in lower case and ASCII characters. -/
def asciiName? (name : String) : Option String := do
  let folded ← name.toList.mapM foldNameChar?
  let labels ← (folded.flatten.splitOn '.').mapM asciiLabel?
  return .ofList (List.intercalate ['.'] labels)

end ArticleTree.Url
