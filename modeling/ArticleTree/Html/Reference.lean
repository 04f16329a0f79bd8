import ArticleTree.Html.ReferenceNames
import ArticleTree.Text.Affix
import ArticleTree.Text.Digits

/-! # Character references

A character is referred to by a number, as in `&#228;` and `&#xe4;`, or by a name. Of the
names that the text goes on with, the longest counts. Some names do not need their
semicolon; in an attribute's value such a name stands for itself if a letter, a digit or
an equals sign follows.
-/

namespace ArticleTree.Html

/-- Code points that stand for the characters which a widespread code page has there. -/
def remapped : List (Nat × Nat) :=
  [(0x80, 0x20AC), (0x82, 0x201A), (0x83, 0x0192), (0x84, 0x201E), (0x85, 0x2026),
    (0x86, 0x2020), (0x87, 0x2021), (0x88, 0x02C6), (0x89, 0x2030), (0x8A, 0x0160),
    (0x8B, 0x2039), (0x8C, 0x0152), (0x8E, 0x017D), (0x91, 0x2018), (0x92, 0x2019),
    (0x93, 0x201C), (0x94, 0x201D), (0x95, 0x2022), (0x96, 0x2013), (0x97, 0x2014),
    (0x98, 0x02DC), (0x99, 0x2122), (0x9A, 0x0161), (0x9B, 0x203A), (0x9C, 0x0153),
    (0x9E, 0x017E), (0x9F, 0x0178)]

def replacementChar : Char := '\uFFFD'

def charOfNumber (n : Nat) : Char :=
  if n = 0 || n > 0x10FFFF || (0xD800 ≤ n && n ≤ 0xDFFF) then replacementChar
  else Char.ofNat ((remapped.lookup n).getD n)

/-- The number that the characters begin with, after `seen` as its first digits, and the
    rest of the characters. -/
def readNumber (base seen : Nat) : List Char → Nat × List Char
  | [] => (seen, [])
  | c :: cs =>
      match Text.digit? base c with
      | some d => readNumber base (seen * base + d) cs
      | none => (seen, c :: cs)

/-- What a number after `&#` or `&#x` refers to, and the rest. -/
def numbered? (base : Nat) (cs : List Char) : Option (List Char × List Char) :=
  match cs with
  | [] => none
  | first :: _ =>
      if (Text.digit? base first).isNone then none
      else
        let (n, rest) := readNumber base 0 cs
        let rest := if rest.head? = some ';' then rest.tail else rest
        some ([charOfNumber n], rest)

/-- The best name so far, or another one if the characters begin with that and it is longer. -/
def longerName? (cs : List Char) (best : Option (NamedReference × List Char))
    (entry : NamedReference) : Option (NamedReference × List Char) :=
  match Text.dropStart? entry.name cs with
  | none => best
  | some rest =>
      match best with
      | some (found, _) =>
          if found.name.length < entry.name.length then some (entry, rest) else best
      | none => some (entry, rest)

/-- The longest name that the characters begin with, with what it refers to and the
    rest. -/
def longestName? (cs : List Char) : Option (NamedReference × List Char) :=
  namedReferences.foldl (longerName? cs) none

/-- What a name after `&` refers to, and the rest. -/
def named? (inAttribute : Bool) (cs : List Char) : Option (List Char × List Char) := do
  let (entry, rest) ← longestName? cs
  let goesOn := rest.head?.any fun c => c == '=' || c.isAlphanum
  if inAttribute && entry.name.getLast? != some ';' && goesOn then none
  else some (entry.chars, rest)

/-- What the characters after `&` refer to, and the rest. -/
def reference? (inAttribute : Bool) : List Char → Option (List Char × List Char)
  | '#' :: 'x' :: cs => numbered? 16 cs
  | '#' :: 'X' :: cs => numbered? 16 cs
  | '#' :: cs => numbered? 10 cs
  | cs => named? inAttribute cs

/-- Resolve the character references. No reference is longer than what follows its
    ampersand, so as many steps as there are characters are enough. -/
def resolveWithin (inAttribute : Bool) : (steps : Nat) → List Char → List Char
  | 0, cs => cs
  | _ + 1, [] => []
  | steps + 1, c :: cs =>
      if c = '&' then
        match reference? inAttribute cs with
        | some (chars, rest) => chars ++ resolveWithin inAttribute steps rest
        | none => c :: resolveWithin inAttribute steps cs
      else
        c :: resolveWithin inAttribute steps cs

def resolve (inAttribute : Bool) (cs : List Char) : List Char :=
  resolveWithin inAttribute cs.length cs

end ArticleTree.Html
