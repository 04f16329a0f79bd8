import ArticleTree.Text.Digits

/-! # Decimal numbers

Numbers as they are written, with a fraction and an exponent, and which of them are
finite as floating point numbers.
-/

namespace ArticleTree.Text

structure Decimal where
  negative : Bool
  whole : List Char
  fraction : List Char
  /-- Whether the exponent is negative, and its digits. -/
  exponent : Option (Bool × List Char)
  deriving DecidableEq, Repr

namespace Decimal

/-- The digits of a number, as one number. -/
def significand (number : Decimal) : Nat :=
  numberOf 10 (number.whole ++ number.fraction)

/-- The exponent, which is zero if none is written. -/
def exponentValue (number : Decimal) : Int :=
  match number.exponent with
  | none => 0
  | some (negative, found) => if negative then - (numberOf 10 found : Int) else numberOf 10 found

/-- The power of ten that the last digit of a number counts. -/
def scale (number : Decimal) : Int :=
  number.exponentValue - number.fraction.length

/-- From here on a number rounds to more than the largest finite one of 64 bits. -/
def overflowBound : Nat :=
  Nat.pow 2 1024 - Nat.pow 2 970

/-- The number is finite as a floating point number of 64 bits. -/
def isFinite (number : Decimal) : Bool :=
  let significand := number.significand
  let size := (Nat.toDigits 10 significand).length
  if significand = 0 || (size : Int) + number.scale ≤ 300 then true
  else if (size : Int) + number.scale > 310 then false
  else if 0 ≤ number.scale then significand * Nat.pow 10 number.scale.toNat < overflowBound
  else significand < overflowBound * Nat.pow 10 (- number.scale).toNat

def literal (number : Decimal) : String :=
  .ofList ((if number.negative then ['-'] else []) ++ number.whole ++
    (if number.fraction.isEmpty then [] else '.' :: number.fraction) ++
    match number.exponent with
    | none => []
    | some (negative, found) => 'e' :: (if negative then ['-'] else []) ++ found)

end Decimal

end ArticleTree.Text
