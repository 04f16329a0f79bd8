/-! # Digits

Numbers written with digits, in bases of at most sixteen.
-/

namespace ArticleTree.Text

/-- The value of a digit in a base of at most sixteen. -/
def digit? (base : Nat) (c : Char) : Option Nat :=
  let value :=
    if '0' ≤ c && c ≤ '9' then c.toNat - '0'.toNat
    else if 'a' ≤ c && c ≤ 'f' then c.toNat - 'a'.toNat + 10
    else if 'A' ≤ c && c ≤ 'F' then c.toNat - 'A'.toNat + 10
    else 16
  if value < base then some value else none

/-- The character is a digit of the base. -/
def isDigitOf (base : Nat) (c : Char) : Bool :=
  (digit? base c).isSome

def numberOf (base : Nat) (digits : List Char) : Nat :=
  digits.foldl (fun n c => n * base + (digit? base c).getD 0) 0

/-- The number that the characters stand for, if they are digits and there is at least
    one. -/
def number? (base : Nat) (cs : List Char) : Option Nat :=
  if !cs.isEmpty && cs.all (isDigitOf base) then some (numberOf base cs) else none

/-- The digits of a number, in lower case, with zeros before them up to a width. -/
def paddedDigits (width base n : Nat) : List Char :=
  let found := Nat.toDigits base n
  List.replicate (width - found.length) '0' ++ found

end ArticleTree.Text
