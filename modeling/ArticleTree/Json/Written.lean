import ArticleTree.Json.Range
import ArticleTree.Json.Value
import ArticleTree.Text.Affix

/-! # JSON as it is written

Reading JSON takes two steps. The first knows the grammar alone and finds the parts of the
text. The second makes values of them, and is stricter: numbers must be within range, an
escaped surrogate must have its partner, and values must not be nested too deeply. So a
field that nobody asks for only has to be well written.
-/

namespace ArticleTree.Json

/-- A character of a string as it is written. -/
inductive StringPart where
  | char (c : Char)
  /-- A unit of sixteen bits, given by four digits. -/
  | unit (value : Nat)
  deriving DecidableEq, Repr

inductive Written where
  | null
  | bool (value : Bool)
  | number (text : Text.Decimal)
  | string (parts : List StringPart)
  | array (items : List Written)
  | object (fields : List (List StringPart × Written))

/-! ## The grammar -/

/-- The characters that may stand between the parts. -/
def isSpace (c : Char) : Bool :=
  c == ' ' || c == '\n' || c == '\t' || c == '\r'

def skipSpace (cs : List Char) : List Char :=
  cs.dropWhile isSpace

/-- The digits that the characters begin with, and the rest. -/
def digits (cs : List Char) : List Char × List Char :=
  cs.span Char.isDigit

/-- The digits that the characters begin with, at least one. -/
def someDigits? (cs : List Char) : Option (List Char × List Char) :=
  match digits cs with
  | ([], _) => none
  | found => some found

/-- The whole part of a number: no digit follows a leading zero. -/
def wholePart? (cs : List Char) : Option (List Char × List Char) :=
  match cs with
  | '0' :: rest => some (['0'], rest)
  | _ => someDigits? cs

/-- The fraction of a number, if it has one. -/
def fractionPart? (cs : List Char) : Option (List Char × List Char) :=
  match cs with
  | '.' :: rest => someDigits? rest
  | _ => some ([], cs)

/-- The exponent of a number, if it has one. -/
def exponentPart? (cs : List Char) : Option (Option (Bool × List Char) × List Char) :=
  match cs with
  | c :: rest =>
      if c = 'e' || c = 'E' then
        let (negative, rest) := match rest with
          | '-' :: rest => (true, rest)
          | '+' :: rest => (false, rest)
          | _ => (false, rest)
        (someDigits? rest).map fun (found, rest) => (some (negative, found), rest)
      else some (none, cs)
  | [] => some (none, cs)

def number? (cs : List Char) : Option (Text.Decimal × List Char) := do
  let (negative, cs) := match cs with
    | '-' :: rest => (true, rest)
    | _ => (false, cs)
  let (whole, cs) ← wholePart? cs
  let (fraction, cs) ← fractionPart? cs
  let (exponent, cs) ← exponentPart? cs
  return (⟨negative, whole, fraction, exponent⟩, cs)

/-- The character that an escape of one letter stands for. -/
def escaped? (c : Char) : Option Char :=
  [('"', '"'), ('\\', '\\'), ('/', '/'), ('b', '\x08'), ('f', '\x0c'), ('n', '\n'),
    ('r', '\r'), ('t', '\t')].lookup c

/-- The parts of a string up to its closing quote, and what follows the quote. -/
def stringParts? : List Char → Option (List StringPart × List Char)
  | [] => none
  | '"' :: rest => some ([], rest)
  | '\\' :: 'u' :: a :: b :: c :: d :: rest => do
      let value ← Text.number? 16 [a, b, c, d]
      let (parts, rest) ← stringParts? rest
      return (.unit value :: parts, rest)
  | '\\' :: e :: rest => do
      let c ← escaped? e
      let (parts, rest) ← stringParts? rest
      return (.char c :: parts, rest)
  | c :: rest =>
      if c.toNat < 0x20 || c = '\\' then none
      else (stringParts? rest).map fun (parts, rest) => (.char c :: parts, rest)

mutual

/-- A value, and the rest. Each step reads at least one character, so as many steps as
    there are characters are enough. -/
def value? : (steps : Nat) → List Char → Option (Written × List Char)
  | 0, _ => none
  | steps + 1, cs =>
      match skipSpace cs with
      | '"' :: rest => (stringParts? rest).map fun (parts, rest) => (.string parts, rest)
      | '[' :: rest =>
          match skipSpace rest with
          | ']' :: rest => some (.array [], rest)
          | rest => (items? steps rest).map fun (items, rest) => (.array items, rest)
      | '\x7b' :: rest =>
          match skipSpace rest with
          | '\x7d' :: rest => some (.object [], rest)
          | rest => (fields? steps rest).map fun (fields, rest) => (.object fields, rest)
      | cs =>
          match Text.dropStart? "null".toList cs, Text.dropStart? "true".toList cs,
              Text.dropStart? "false".toList cs with
          | some rest, _, _ => some (.null, rest)
          | _, some rest, _ => some (.bool true, rest)
          | _, _, some rest => some (.bool false, rest)
          | none, none, none => (number? cs).map fun (text, rest) => (.number text, rest)

/-- The items of an array, its closing bracket, and the rest. -/
def items? : (steps : Nat) → List Char → Option (List Written × List Char)
  | 0, _ => none
  | steps + 1, cs => do
      let (item, rest) ← value? steps cs
      match skipSpace rest with
      | ',' :: rest =>
          let (items, rest) ← items? steps rest
          return (item :: items, rest)
      | ']' :: rest => return ([item], rest)
      | _ => none

/-- The fields of an object, its closing brace, and the rest. -/
def fields? : (steps : Nat) → List Char → Option (List (List StringPart × Written) × List Char)
  | 0, _ => none
  | steps + 1, cs =>
      match skipSpace cs with
      | '"' :: rest => do
          let (name, rest) ← stringParts? rest
          match skipSpace rest with
          | ':' :: rest =>
              let (value, rest) ← value? steps rest
              match skipSpace rest with
              | ',' :: rest =>
                  let (fields, rest) ← fields? steps rest
                  return ((name, value) :: fields, rest)
              | '\x7d' :: rest => return ([(name, value)], rest)
              | _ => none
          | _ => none
      | _ => none

end

def Written.parse? (text : String) : Option Written :=
  let cs := text.toList
  match value? (2 * cs.length + 1) cs with
  | some (written, rest) => if (skipSpace rest).isEmpty then some written else none
  | none => none

/-! ## Values -/

/-- The value of a number, if it is within range. -/
def numberValue? (text : Text.Decimal) : Option Json :=
  if text.fraction.isEmpty && text.exponent.isNone then
    let n := Text.numberOf 10 text.whole
    if text.negative then
      if 0 < n && n ≤ 0x8000000000000000 then some (.integer (- (n : Int)))
      else if isWithinRange text then some (.real text.literal) else none
    else
      if n < UInt64.size then some (.integer n)
      else if isWithinRange text then some (.real text.literal) else none
  else if isWithinRange text then some (.real text.literal)
  else none

/-- The characters of a string: two surrogates together are one character, and none
    stands alone. -/
def stringChars? : List StringPart → Option (List Char)
  | [] => some []
  | .char c :: parts => (stringChars? parts).map (c :: ·)
  | .unit high :: .unit low :: parts =>
      if 0xD800 ≤ high && high ≤ 0xDBFF then
        if 0xDC00 ≤ low && low ≤ 0xDFFF then
          (stringChars? parts).map
            (Char.ofNat (0x10000 + (high - 0xD800) * 0x400 + (low - 0xDC00)) :: ·)
        else none
      else if 0xDC00 ≤ high && high ≤ 0xDFFF then none
      else (stringChars? (.unit low :: parts)).map (Char.ofNat high :: ·)
  | .unit unit :: parts =>
      if 0xD800 ≤ unit && unit ≤ 0xDFFF then none
      else (stringChars? parts).map (Char.ofNat unit :: ·)

def stringText? (parts : List StringPart) : Option String :=
  (stringChars? parts).map .ofList

namespace Written

mutual

/-- The value, if it is nested no deeper than `room`. -/
def value? (room : Nat) : Written → Option Json
  | null => some .null
  | bool value => some (.bool value)
  | number text => numberValue? text
  | string parts => (stringText? parts).map .string
  | array items =>
      match room with
      | 0 => none
      | room + 1 => (values? room items).map .array
  | object fields =>
      match room with
      | 0 => none
      | room + 1 => (fieldValues? room fields).map .object

def values? (room : Nat) : List Written → Option (List Json)
  | [] => some []
  | item :: items => do return (← item.value? room) :: (← values? room items)

def fieldValues? (room : Nat) : List (List StringPart × Written) → Option (List (String × Json))
  | [] => some []
  | (name, value) :: fields => do
      return (← stringText? name, ← value.value? room) :: (← fieldValues? room fields)

end

/-- The fields of a value that stands for a record. Of a field that is not asked for only
    the name is looked at. -/
def record? (names : List String) : Written → Option (List (Option Written))
  | object fields => do
      let fields ← fields.mapM fun (name, value) => do return (← stringText? name, value)
      Record.fromFields? names fields
  | array items => Record.fromItems? names items
  | _ => none

def items? : Written → Option (List Written)
  | array items => some items
  | _ => none

def text? : Written → Option String
  | string parts => stringText? parts
  | _ => none

end Written

/-- How deeply values may be nested in a text that is read. -/
def maxNesting : Nat := 127

def parse? (text : String) : Option Json :=
  (Written.parse? text).bind (Written.value? maxNesting)

end ArticleTree.Json
