import ArticleTree.Text.Affix
import ArticleTree.Text.Decimal

/-! # The words of TOML

Blanks, comments, strings and numbers: what a document is written with. Each reader takes
the characters from where its word begins, and gives the word and the rest.
-/

namespace ArticleTree.Toml

/-! ## Blanks and comments -/

/-- The characters that may stand between words on a line. -/
def isSpace (c : Char) : Bool :=
  c == ' ' || c == '\t'

/-- The characters from the next word of the line on. -/
def skipSpace (cs : List Char) : List Char :=
  cs.dropWhile isSpace

/-- The character may stand in comments and strings as it is: it is no control character
    apart from the tab. -/
def isPlain (c : Char) : Bool :=
  c == '\t' || (0x20 ≤ c.toNat && c.toNat != 0x7F)

def newline? : List Char → Option (List Char)
  | '\n' :: rest => some rest
  | '\r' :: '\n' :: rest => some rest
  | _ => none

/-- What follows the comment that begins here, if one does. -/
def skipComment (cs : List Char) : List Char :=
  match cs with
  | '#' :: rest => rest.dropWhile isPlain
  | _ => cs

/-- What follows the line, on which nothing may come but a comment. -/
def lineEnd? (cs : List Char) : Option (List Char) :=
  match skipComment (skipSpace cs) with
  | [] => some []
  | rest => newline? rest

/-- The characters after blanks, ends of lines and comments. -/
def skipVoid (inComment : Bool) : List Char → List Char
  | '\r' :: '\n' :: cs => skipVoid false cs
  | '\n' :: cs => skipVoid false cs
  | c :: cs =>
      if inComment && isPlain c then skipVoid true cs
      else if !inComment && isSpace c then skipVoid false cs
      else if !inComment && c == '#' then skipVoid true cs
      else c :: cs
  | [] => []

/-! ## Strings -/

/-- The character that an escape of one letter stands for. -/
def escaped? (c : Char) : Option Char :=
  [('b', '\x08'), ('t', '\t'), ('n', '\n'), ('f', '\x0c'), ('r', '\r'), ('"', '"'),
    ('\\', '\\')].lookup c

/-- The character with the number that hexadecimal digits stand for. -/
def charOfDigits? (digits : List Char) : Option Char := do
  let n ← Text.number? 16 digits
  if n.isValidChar then some (.ofNat n) else none

/-- The characters of a string up to the quote that ends it, and what follows the quote. -/
def basicString? : List Char → Option (List Char × List Char)
  | '"' :: rest => some ([], rest)
  | '\\' :: 'u' :: a :: b :: c :: d :: rest => do
      let char ← charOfDigits? [a, b, c, d]
      let (chars, rest) ← basicString? rest
      return (char :: chars, rest)
  | '\\' :: 'U' :: a :: b :: c :: d :: e :: f :: g :: h :: rest => do
      let char ← charOfDigits? [a, b, c, d, e, f, g, h]
      let (chars, rest) ← basicString? rest
      return (char :: chars, rest)
  | '\\' :: e :: rest => do
      let char ← escaped? e
      let (chars, rest) ← basicString? rest
      return (char :: chars, rest)
  | c :: rest =>
      if isPlain c && c != '\\' then (basicString? rest).map fun (chars, rest) => (c :: chars, rest)
      else none
  | [] => none

/-- The characters of a string without escapes, up to the quote that ends it, and what
    follows the quote. -/
def literalString? : List Char → Option (List Char × List Char)
  | '\'' :: rest => some ([], rest)
  | c :: rest =>
      if isPlain c then (literalString? rest).map fun (chars, rest) => (c :: chars, rest)
      else none
  | [] => none

/-- What stands after three quotes: up to two more quotes belong to the string that they
    end. -/
def surplusQuotes (mark : Char) : List Char → List Char × List Char
  | a :: b :: rest =>
      if a = mark then if b = mark then ([a, b], rest) else ([a], b :: rest)
      else ([], a :: b :: rest)
  | [a] => if a = mark then ([a], []) else ([], [a])
  | [] => ([], [])

/-- The characters of a string of several lines up to the three quotes that end it, and
    what follows them. After a backslash at the end of a line, blanks and ends of lines are
    left out up to the next other character; `skipping` says that this goes on. -/
def basicLines? (skipping : Bool) : List Char → Option (List Char × List Char)
  | '"' :: '"' :: '"' :: rest => some (surplusQuotes '"' rest)
  | '\\' :: 'u' :: a :: b :: c :: d :: rest => do
      let char ← charOfDigits? [a, b, c, d]
      let (chars, rest) ← basicLines? false rest
      return (char :: chars, rest)
  | '\\' :: 'U' :: a :: b :: c :: d :: e :: f :: g :: h :: rest => do
      let char ← charOfDigits? [a, b, c, d, e, f, g, h]
      let (chars, rest) ← basicLines? false rest
      return (char :: chars, rest)
  | '\\' :: e :: rest =>
      if (newline? (skipSpace (e :: rest))).isSome then
        basicLines? true rest
      else do
        let char ← escaped? e
        let (chars, rest) ← basicLines? false rest
        return (char :: chars, rest)
  | '\r' :: '\n' :: rest =>
      if skipping then basicLines? true rest
      else (basicLines? false rest).map fun (chars, rest) => ('\n' :: chars, rest)
  | c :: rest =>
      if skipping && (c == '\n' || isSpace c) then basicLines? true rest
      else if c == '\n' || (isPlain c && c != '\\') then
        (basicLines? false rest).map fun (chars, rest) => (c :: chars, rest)
      else none
  | [] => none

/-- The characters of a string of several lines without escapes, up to the three quotes
    that end it, and what follows them. -/
def literalLines? : List Char → Option (List Char × List Char)
  | '\'' :: '\'' :: '\'' :: rest => some (surplusQuotes '\'' rest)
  | '\r' :: '\n' :: rest => (literalLines? rest).map fun (chars, rest) => ('\n' :: chars, rest)
  | c :: rest =>
      if c == '\n' || isPlain c then
        (literalLines? rest).map fun (chars, rest) => (c :: chars, rest)
      else none
  | [] => none

/-- A string on one line, and the rest. -/
def lineString? : List Char → Option (String × List Char)
  | '"' :: rest => (basicString? rest).map fun (chars, rest) => (.ofList chars, rest)
  | '\'' :: rest => (literalString? rest).map fun (chars, rest) => (.ofList chars, rest)
  | _ => none

/-- A string, and the rest. Of several lines the first is left out if it is empty. -/
def string? : List Char → Option (String × List Char)
  | '"' :: '"' :: '"' :: rest =>
      (basicLines? false ((newline? rest).getD rest)).map fun (chars, rest) => (.ofList chars, rest)
  | '\'' :: '\'' :: '\'' :: rest =>
      (literalLines? ((newline? rest).getD rest)).map fun (chars, rest) => (.ofList chars, rest)
  | cs => lineString? cs

/-! ## Numbers -/

/-- The digits that the characters begin with, and the rest. One underscore may stand
    between two digits, and is left out. -/
def digitsFrom? (base : Nat) : List Char → Option (List Char × List Char)
  | c :: '_' :: rest =>
      if Text.isDigitOf base c then
        (digitsFrom? base rest).map fun (digits, rest) => (c :: digits, rest)
      else none
  | c :: rest =>
      if Text.isDigitOf base c then
        match digitsFrom? base rest with
        | some (digits, rest) => some (c :: digits, rest)
        | none => some ([c], rest)
      else none
  | [] => none

/-- The whole part of a decimal number: no digit follows a leading zero. -/
def wholePart? (cs : List Char) : Option (List Char × List Char) :=
  match cs with
  | '0' :: rest => some (['0'], rest)
  | _ => digitsFrom? 10 cs

/-- A sign, if there is one, and the rest. -/
def signOf (cs : List Char) : Bool × List Char :=
  match cs with
  | '-' :: rest => (true, rest)
  | '+' :: rest => (false, rest)
  | _ => (false, cs)

end ArticleTree.Toml
