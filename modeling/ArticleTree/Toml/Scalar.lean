import ArticleTree.Toml.Lexis
import ArticleTree.Toml.Value

/-! # Single TOML values

Strings, numbers, truth values, dates and times.
-/

namespace ArticleTree.Toml

/-! ## Numbers -/

/-- The bases other than ten, by the letter after a zero. -/
def baseOf? (c : Char) : Option Nat :=
  [('x', 16), ('o', 8), ('b', 2)].lookup c

/-- A whole number of 64 bits, and the rest. -/
def integer? (cs : List Char) : Option (Int × List Char) :=
  let based : Option (Int × List Char) :=
    match cs with
    | '0' :: letter :: rest => do
        let base ← baseOf? letter
        let (digits, rest) ← digitsFrom? base rest
        return (Text.numberOf base digits, rest)
    | _ => none
  let decimal : Option (Int × List Char) := do
    let (negative, cs) := signOf cs
    let (digits, rest) ← wholePart? cs
    let n : Int := Text.numberOf 10 digits
    return (if negative then - n else n, rest)
  match based <|> decimal with
  | some (n, rest) =>
      if - 0x8000000000000000 ≤ n ∧ n < 0x8000000000000000 then some (n, rest) else none
  | none => none

/-- The fraction of a number, and the rest. -/
def fraction? (cs : List Char) : Option (List Char × List Char) :=
  match cs with
  | '.' :: rest => digitsFrom? 10 rest
  | _ => none

/-- The exponent of a number, and the rest. -/
def exponent? (cs : List Char) : Option ((Bool × List Char) × List Char) :=
  match cs with
  | c :: rest =>
      if c = 'e' || c = 'E' then
        let (negative, rest) := signOf rest
        (digitsFrom? 10 rest).map fun (digits, rest) => ((negative, digits), rest)
      else none
  | [] => none

/-- A floating point number with a fraction, an exponent or both, and the rest. -/
def decimal? (cs : List Char) : Option (Text.Decimal × List Char) := do
  let (negative, cs) := signOf cs
  let (whole, cs) ← wholePart? cs
  match exponent? cs with
  | some (exponent, rest) => return (⟨negative, whole, [], some exponent⟩, rest)
  | none =>
      let (fraction, cs) ← fraction? cs
      match exponent? cs with
      | some (exponent, rest) => return (⟨negative, whole, fraction, some exponent⟩, rest)
      | none => return (⟨negative, whole, fraction, none⟩, cs)

/-- What follows one of the words for infinity and for what is no number. -/
def afterSpecial? (cs : List Char) : Option (List Char) :=
  let (_, cs) := signOf cs
  Text.dropStart? ['i', 'n', 'f'] cs <|> Text.dropStart? ['n', 'a', 'n'] cs

/-- What follows a floating point number. A number is refused that rounds to positive
    infinity; below the negative numbers there is room. -/
def afterFloat? (cs : List Char) : Option (List Char) :=
  match decimal? cs with
  | some (number, rest) => if number.negative || number.isFinite then some rest else none
  | none => afterSpecial? cs

/-! ## Dates and times -/

/-- A number that takes up so many digits and is within the bounds, and the rest. -/
def fixed? (width least most : Nat) (cs : List Char) : Option (Nat × List Char) := do
  if (cs.take width).length < width then none
  let n ← Text.number? 10 (cs.take width)
  if least ≤ n && n ≤ most then some (n, cs.drop width) else none

def after? (mark : Char) (cs : List Char) : Option (List Char) :=
  Text.dropStart? [mark] cs

/-- The year has a leap day. -/
def isLeapYear (year : Nat) : Bool :=
  year % 4 == 0 && (year % 100 != 0 || year % 400 == 0)

def daysIn (year month : Nat) : Nat :=
  if month = 2 then if isLeapYear year then 29 else 28
  else if month ∈ [4, 6, 9, 11] then 30
  else 31

def afterDate? (cs : List Char) : Option (List Char) := do
  let (year, cs) ← fixed? 4 0 9999 cs
  let (month, cs) ← fixed? 2 1 12 (← after? '-' cs)
  let (_, cs) ← fixed? 2 1 (daysIn year month) (← after? '-' cs)
  return cs

def afterTime? (cs : List Char) : Option (List Char) := do
  let (_, cs) ← fixed? 2 0 23 cs
  let (_, cs) ← fixed? 2 0 59 (← after? ':' cs)
  let (_, cs) ← fixed? 2 0 60 (← after? ':' cs)
  match cs with
  | '.' :: c :: rest =>
      if c.isDigit then return rest.dropWhile Char.isDigit else return cs
  | _ => return cs

def afterOffset? (cs : List Char) : Option (List Char) :=
  match cs with
  | c :: rest =>
      if c = 'Z' || c = 'z' then some rest
      else if c = '+' || c = '-' then do
        let (_, rest) ← fixed? 2 0 23 rest
        let (_, rest) ← fixed? 2 0 59 (← after? ':' rest)
        return rest
      else none
  | [] => none

/-- What follows the time that comes after a date. -/
def afterDelimitedTime? (cs : List Char) : Option (List Char) :=
  match cs with
  | c :: rest =>
      if c = 'T' || c = 't' || c = ' ' then do
        let rest ← afterTime? rest
        return (afterOffset? rest).getD rest
      else none
  | [] => none

/-- What follows a date, a time or both. -/
def afterDateTime? (cs : List Char) : Option (List Char) :=
  match afterDate? cs with
  | some rest => some ((afterDelimitedTime? rest).getD rest)
  | none => afterTime? cs

/-! ## Values -/

def scalar? (cs : List Char) : Option (Toml × List Char) :=
  let literal (rest : List Char) : String := .ofList (cs.take (cs.length - rest.length))
  match string? cs with
  | some (text, rest) => some (.string text, rest)
  | none =>
  match Text.dropStart? ['t', 'r', 'u', 'e'] cs with
  | some rest => some (.boolean true, rest)
  | none =>
  match Text.dropStart? ['f', 'a', 'l', 's', 'e'] cs with
  | some rest => some (.boolean false, rest)
  | none =>
  match afterDateTime? cs with
  | some rest => some (.dateTime (literal rest), rest)
  | none =>
  match afterFloat? cs with
  | some rest => some (.float (literal rest), rest)
  | none => (integer? cs).map fun (n, rest) => (.integer n, rest)

end ArticleTree.Toml
