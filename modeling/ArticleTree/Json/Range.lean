import ArticleTree.Text.Decimal

/-! # The range of numbers

A number becomes a floating point number of 64 bits as the product of two: its first
digits, as many as fit into 64 bits, and a power of ten. Both are rounded before they are
multiplied, so at the very end of the range the last digit is not reliable.
-/

namespace ArticleTree.Json

/-- The number that digits stand for after `n`, as far as it fits into 64 bits, and the
    digits that are left. -/
def leadingNumber (n : Nat) : List Char → Nat × List Char
  | [] => (n, [])
  | c :: cs =>
      let next := n * 10 + (Text.digit? 10 c).getD 0
      if next < UInt64.size then leadingNumber next cs else (n, c :: cs)

/-- The number with 53 binary digits that is nearest, the even one of two. -/
def roundToFloat (n : Nat) : Nat :=
  let unit := Nat.pow 2 (Nat.log2 n + 1 - 53)
  let below := n / unit
  let rest := 2 * (n % unit)
  let rounded := if rest < unit || (rest = unit && below % 2 = 0) then below else below + 1
  rounded * unit

/-- The number is a finite floating point number. -/
def isWithinRange (number : Text.Decimal) : Bool :=
  let (n, whole) := leadingNumber 0 number.whole
  let (n, fraction) := leadingNumber n number.fraction
  let used := number.fraction.length - fraction.length
  let scale := number.exponentValue + whole.length - used
  if n = 0 || scale ≤ 0 then true
  else if 308 < scale then false
  else roundToFloat n * roundToFloat (Nat.pow 10 scale.toNat) < Text.Decimal.overflowBound

end ArticleTree.Json
