import ArticleTree.Text.Digits

/-! # Percent encoding

A character that may not stand in a part of a URL is written as the bytes that it has in
UTF-8, each as a percent sign with two hexadecimal digits. Which ASCII characters are
written so depends on the part; others always are.
-/

namespace ArticleTree.Url

def escapedByte (byte : UInt8) : List Char :=
  '%' :: (Text.paddedDigits 2 16 byte.toNat).map Char.toUpper

/-- ASCII characters that a part of a URL does not hold as they are. -/
abbrev EncodeSet := Char → Bool

namespace EncodeSet

def controls : EncodeSet := fun c =>
  c.toNat < 0x20 || c.toNat == 0x7F

def withChars (base : EncodeSet) (marks : String) : EncodeSet := fun c =>
  base c || marks.toList.contains c

def fragment : EncodeSet := controls.withChars " \"<>\x60"

def query : EncodeSet := controls.withChars " \"#<>"

def specialQuery : EncodeSet := query.withChars "'"

def path : EncodeSet := fragment.withChars "#?\x7b\x7d"

def userinfo : EncodeSet := path.withChars "/:;=@[\\]^|"

/-- For a segment that is added to a path: it stays one segment. -/
def segment : EncodeSet := path.withChars "/%"

/-- For a segment that is added to the path of a special URL. -/
def specialSegment : EncodeSet := segment.withChars "\\"

end EncodeSet

/-- One character, as it is written in a part of a URL. -/
def encodeChar (set : EncodeSet) (c : Char) : List Char :=
  if c.toNat < 0x80 && !set c then [c]
  else (String.utf8EncodeChar c).flatMap escapedByte

/-- Characters, as they are written in a part of a URL. -/
def encode (set : EncodeSet) (cs : List Char) : List Char :=
  cs.flatMap (encodeChar set)

/-- The bytes that the characters stand for. A percent sign without two digits after it
    stands for itself. -/
def decode : List Char → List UInt8
  | '%' :: a :: b :: rest =>
      match Text.digit? 16 a, Text.digit? 16 b with
      | some high, some low => (high * 16 + low).toUInt8 :: decode rest
      | _, _ => String.utf8EncodeChar '%' ++ decode (a :: b :: rest)
  | c :: rest => String.utf8EncodeChar c ++ decode rest
  | [] => []

/-! ## Forms -/

/-- The character stands in a form as it is. -/
def isFormChar (c : Char) : Bool :=
  c.isAlphanum || c == '*' || c == '-' || c == '.' || c == '_'

def formChar (c : Char) : List Char :=
  if c = ' ' then ['+']
  else if isFormChar c then [c]
  else (String.utf8EncodeChar c).flatMap escapedByte

/-- Names and values, written one after the other. -/
def form (fields : List (String × String)) : String :=
  "&".intercalate <| fields.map fun (name, value) =>
    .ofList (name.toList.flatMap formChar ++ '=' :: value.toList.flatMap formChar)

end ArticleTree.Url
