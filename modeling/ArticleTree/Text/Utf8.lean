/-! # Bytes as text

Bytes are read as text in UTF-8. Where they are none, a mark stands for as many bytes as
could have begun a character.
-/

namespace ArticleTree.Text

structure Unfinished where
  /-- The bits so far. -/
  bits : Nat
  /-- How many bytes are missing. -/
  missing : Nat
  /-- The least byte that can come next. -/
  least : UInt8
  /-- The greatest byte that can come next. -/
  most : UInt8
  deriving DecidableEq, Repr

/-- The mark for bytes that are no text. -/
def unreadable : Char := '\uFFFD'

/-- The character that begins with a byte, as far as it goes. -/
def beginChar (byte : UInt8) : List Char × Option Unfinished :=
  let n := byte.toNat
  if n < 0x80 then ([Char.ofNat n], none)
  else if n < 0xC2 then ([unreadable], none)
  else if n < 0xE0 then ([], some ⟨n - 0xC0, 1, 0x80, 0xBF⟩)
  else if n < 0xF0 then
    ([], some ⟨n - 0xE0, 2, if n = 0xE0 then 0xA0 else 0x80, if n = 0xED then 0x9F else 0xBF⟩)
  else if n < 0xF5 then
    ([], some ⟨n - 0xF0, 3, if n = 0xF0 then 0x90 else 0x80, if n = 0xF4 then 0x8F else 0xBF⟩)
  else ([unreadable], none)

/-- The characters that a byte completes, and the one that it leaves unfinished. -/
def readByte (byte : UInt8) : Option Unfinished → List Char × Option Unfinished
  | none => beginChar byte
  | some u =>
      if u.least ≤ byte && byte ≤ u.most then
        let bits := u.bits * 0x40 + (byte.toNat - 0x80)
        if u.missing = 1 then ([Char.ofNat bits], none)
        else ([], some ⟨bits, u.missing - 1, 0x80, 0xBF⟩)
      else
        let (chars, next) := beginChar byte
        (unreadable :: chars, next)

/-- The characters of bytes after an unfinished character. -/
def readBytes : Option Unfinished → List UInt8 → List Char
  | none, [] => []
  | some _, [] => [unreadable]
  | unfinished, byte :: bytes =>
      let (chars, next) := readByte byte unfinished
      chars ++ readBytes next bytes

def decodeUtf8 (bytes : List UInt8) : String :=
  .ofList (readBytes none bytes)

end ArticleTree.Text
