import ArticleTree.Text.Digits

/-! # Hosts

The host of a URL is a name, or an address of one of two kinds. Names that end in a
number are read as addresses.
-/

namespace ArticleTree.Url

inductive Malformed where
  | relative
  | emptyHost
  | portNumber
  | ipv4
  | ipv6
  | domain
  | hostCharacter
  deriving DecidableEq, Repr

def Malformed.message : Malformed → String
  | relative => "relative URL without a base"
  | emptyHost => "empty host"
  | portNumber => "invalid port number"
  | ipv4 => "invalid IPv4 address"
  | ipv6 => "invalid IPv6 address"
  | domain => "invalid international domain name"
  | hostCharacter => "invalid domain character"

inductive Host where
  /-- A name, which is empty where a URL names no host. -/
  | name (text : String)
  | ipv4 (address : Nat)
  /-- An address of eight pieces. -/
  | ipv6 (pieces : List Nat)
  deriving DecidableEq, Repr

/-! ## Addresses of four bytes -/

/-- A part of an address, in base sixteen, eight or ten. -/
def ipv4Part? (cs : List Char) : Option Nat :=
  match cs with
  | '0' :: 'x' :: rest | '0' :: 'X' :: rest => if rest.isEmpty then some 0 else Text.number? 16 rest
  | '0' :: c :: rest => Text.number? 8 (c :: rest)
  | _ => Text.number? 10 cs

/-- The parts between dots; an empty last part does not count. -/
def dottedParts (text : String) : List (List Char) :=
  let parts := text.toList.splitOn '.'
  if parts.getLast? = some [] then parts.dropLast else parts

/-- The last part of the name is a number. -/
def endsInNumber (text : String) : Bool :=
  match (dottedParts text).getLast? with
  | some part => (!part.isEmpty && part.all Char.isDigit) || (ipv4Part? part).isSome
  | none => false

/-- The address with these parts: each but the last is one byte, and the last fills the
    rest. -/
def ipv4OfParts? (parts : List Nat) : Option Nat :=
  match parts.reverse with
  | [] => none
  | last :: before =>
      let bytes := before.reverse
      let room := Nat.pow 256 (4 - bytes.length)
      if bytes.length ≤ 3 && bytes.all (· < 256) && last < room then
        some ((bytes.foldl (fun n byte => n * 256 + byte) 0) * room + last)
      else none

def ipv4? (text : String) : Option Nat := do
  ipv4OfParts? (← (dottedParts text).mapM ipv4Part?)

def printIpv4 (address : Nat) : String :=
  ".".intercalate <|
    [0x1000000, 0x10000, 0x100, 1].map fun unit => toString (address / unit % 256)

/-! ## Addresses of sixteen bytes -/

/-- A byte in base ten, without leading zeros. -/
def byte? (cs : List Char) : Option Nat := do
  let n ← Text.number? 10 cs
  if n < 256 && (cs.length = 1 || cs.head? != some '0') then some n else none

def embeddedIpv4? (cs : List Char) : Option (List Nat) := do
  match ← (cs.splitOn '.').mapM byte? with
  | [a, b, c, d] => some [a * 256 + b, c * 256 + d]
  | _ => none

def piece? (cs : List Char) : Option Nat :=
  if cs.length ≤ 4 then Text.number? 16 cs else none

/-- Pieces between colons. The last two may be written as four bytes, if `last` says that
    the address ends here. -/
def pieces? (last : Bool) (cs : List Char) : Option (List Nat) :=
  if cs.isEmpty then some []
  else
    let parts := cs.splitOn ':'
    match parts.getLast? with
    | some final =>
        if last && final.contains '.' then do
          return (← parts.dropLast.mapM piece?) ++ (← embeddedIpv4? final)
        else parts.mapM piece?
    | none => some []

/-- The characters before and after the first two colons that stand together. -/
def cutAtGap? : List Char → Option (List Char × List Char)
  | ':' :: ':' :: rest => some ([], rest)
  | c :: rest => (cutAtGap? rest).map fun (before, after) => (c :: before, after)
  | [] => none

/-- The eight pieces that a text stands for. Two colons together stand for as many zeros
    as are missing, and at least for one. -/
def ipv6? (cs : List Char) : Option (List Nat) := do
  match cutAtGap? cs with
  | some (before, after) =>
      let first ← pieces? false before
      let last ← pieces? true after
      let found := first.length + last.length
      if found ≤ 7 then some (first ++ List.replicate (8 - found) 0 ++ last) else none
  | none =>
      let all ← pieces? true cs
      if all.length = 8 then some all else none

def leadingZeros (pieces : List Nat) : Nat :=
  (pieces.takeWhile (· == 0)).length

/-- Where the first of the longest runs of zeros begins, and how long it is. -/
def longestZeros : List Nat → Nat × Nat
  | [] => (0, 0)
  | piece :: pieces =>
      let here := leadingZeros (piece :: pieces)
      let (start, length) := longestZeros pieces
      if length ≤ here then (0, here) else (start + 1, length)

def printPieces (pieces : List Nat) : String :=
  ":".intercalate (pieces.map fun piece => .ofList (Nat.toDigits 16 piece))

/-- An address, in which the first of the longest runs of at least two zeros is left out. -/
def printIpv6 (pieces : List Nat) : String :=
  let (start, length) := longestZeros pieces
  if length < 2 then printPieces pieces
  else printPieces (pieces.take start) ++ "::" ++ printPieces (pieces.drop (start + length))

namespace Host

/-- The host, as it is written in a URL. -/
def print : Host → String
  | name text => text
  | ipv4 address => printIpv4 address
  | ipv6 pieces => "[" ++ printIpv6 pieces ++ "]"

def isEmpty : Host → Bool
  | name text => text.isEmpty
  | _ => false

end Host

end ArticleTree.Url
