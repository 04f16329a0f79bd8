/-! # Punycode

Labels of domain names are written with ASCII characters alone. The others are taken out
of the label, and noted behind it by ascending code point: each note is the number of
steps from the note before, in digits whose weights adapt to the numbers seen so far.
-/

namespace ArticleTree.Url.Punycode

def digitChar (d : Nat) : Char :=
  if d < 26 then Char.ofNat ('a'.toNat + d) else Char.ofNat ('0'.toNat + (d - 26))

def digitValue? (c : Char) : Option Nat :=
  if 'a' ≤ c && c ≤ 'z' then some (c.toNat - 'a'.toNat)
  else if 'A' ≤ c && c ≤ 'Z' then some (c.toNat - 'A'.toNat)
  else if '0' ≤ c && c ≤ '9' then some (c.toNat - '0'.toNat + 26)
  else none

/-- A digit below this ends its number, at the place `place` from 36 on in steps of 36. -/
def threshold (bias place : Nat) : Nat :=
  if place ≤ bias then 1 else min 26 (place - bias)

theorem threshold_pos (bias place : Nat) : 0 < threshold bias place := by
  unfold threshold
  split <;> omega

/-- Scale a number of steps down until it is small, and count the places. -/
def scaled (delta places : Nat) : Nat :=
  if 455 < delta then scaled (delta / 35) (places + 36)
  else places + 36 * delta / (delta + 38)
termination_by delta
decreasing_by omega

/-- The bias after a number of steps, when `handled` characters of the label are known. -/
def adapt (delta handled : Nat) (first : Bool) : Nat :=
  let delta := if first then delta / 700 else delta / 2
  scaled (delta + delta / handled) 0

def digitsOf (bias place n : Nat) : List Char :=
  let t := threshold bias place
  if n < t then [digitChar n]
  else digitChar (t + (n - t) % (36 - t)) :: digitsOf bias (place + 36) ((n - t) / (36 - t))
termination_by n
decreasing_by
  have positive := threshold_pos bias place
  exact Nat.lt_of_le_of_lt (Nat.div_le_self _ _) (by omega)

structure Writing where
  /-- The digits so far. -/
  written : List Char
  /-- Steps since the last note. -/
  delta : Nat
  bias : Nat
  /-- How many characters of the label are written. -/
  handled : Nat

/-- Pass by a character of the label, while the characters with the code point `point` are
    noted. `basic` characters needed no note. -/
def Writing.pass (basic point : Nat) (w : Writing) (c : Char) : Writing :=
  if c.toNat < point then { w with delta := w.delta + 1 }
  else if c.toNat = point then
    { written := w.written ++ digitsOf w.bias 36 w.delta
      delta := 0
      bias := adapt w.delta (w.handled + 1) (w.handled == basic)
      handled := w.handled + 1 }
  else w

/-- Note the characters with the code points one after the other. `next` is the least code
    point that was not looked at. -/
def Writing.run (label : List Char) (basic : Nat) : (points : List Nat) → (next : Nat) →
    Writing → Writing
  | [], _, w => w
  | point :: points, next, w =>
      let w := { w with delta := w.delta + (point - next) * (w.handled + 1) }
      let w := label.foldl (pass basic point) w
      run label basic points (point + 1) { w with delta := w.delta + 1 }

def encode (label : List Char) : List Char :=
  let basic := label.filter fun c => c.toNat < 0x80
  let points := ((label.filter fun c => 0x80 ≤ c.toNat).map Char.toNat).mergeSort.eraseDups
  let w := Writing.run label basic.length points 0x80 ⟨[], 0, 72, basic.length⟩
  basic ++ (if basic.isEmpty then [] else ['-']) ++ w.written

/-- The number that digits stand for, and the rest. -/
def number? (bias : Nat) : (place weight : Nat) → List Char → Option (Nat × List Char)
  | _, _, [] => none
  | place, weight, c :: rest => do
      let d ← digitValue? c
      let t := threshold bias place
      if d < t then return (d * weight, rest)
      else
        let (n, rest) ← number? bias (place + 36) (weight * (36 - t)) rest
        return (d * weight + n, rest)

/-- Put the noted characters into a label. `position` is the place in the label up to
    which characters with the code point `point` are settled. Each note takes up at least
    one digit, so as many steps as there are digits are enough. -/
def insertNoted? : (steps : Nat) → (label : List Char) → (position point bias : Nat) →
    List Char → Option (List Char)
  | _, label, _, _, _, [] => some label
  | 0, _, _, _, _, _ => none
  | steps + 1, label, position, point, bias, digits => do
      let (delta, rest) ← number? bias 36 1 digits
      let size := label.length + 1
      let place := position + delta
      let point := point + place / size
      let place := place % size
      if point.isValidChar then
        let label := label.take place ++ Char.ofNat point :: label.drop place
        insertNoted? steps label (place + 1) point (adapt delta size (position == 0)) rest
      else none

/-- The label that ASCII characters stand for. Those before the last hyphen need no
    note. -/
def decode? (written : List Char) : Option (List Char) :=
  let reversed := written.reverse
  let digits := (reversed.takeWhile (· != '-')).reverse
  let basic := (reversed.drop (digits.length + 1)).reverse
  insertNoted? digits.length basic 0 0x80 72 digits

end ArticleTree.Url.Punycode
