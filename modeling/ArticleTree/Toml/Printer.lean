import ArticleTree.Text.Digits

/-! # Writing TOML

Strings are written in the plainest way that holds them: without escapes rather than with
them, and on one line rather than on several.
-/

namespace ArticleTree.Toml

inductive Quotes where
  /-- On one line, with escapes. -/
  | basic
  /-- On one line, without escapes. -/
  | literal
  /-- On several lines, with escapes. -/
  | basicLines
  /-- On several lines, without escapes. -/
  | literalLines
  deriving DecidableEq, Repr

/-- The marks at both ends of a string. -/
def Quotes.marks : Quotes → String
  | basic => "\""
  | literal => "'"
  | basicLines => "\"\"\""
  | literalLines => "'''"

def Quotes.escapes (quotes : Quotes) : Bool :=
  quotes == basic || quotes == basicLines

def Quotes.hasLines (quotes : Quotes) : Bool :=
  quotes == basicLines || quotes == literalLines

/-- The character is a control character that no string holds as it is. -/
def needsCode (c : Char) : Bool :=
  (c.toNat < 0x20 && c != '\t' && c != '\n') || c.toNat == 0x7F

/-- The length of the longest run of a character; `run` of them come before. -/
def longestRun (mark : Char) (run : Nat) : List Char → Nat
  | [] => run
  | c :: cs =>
      if c = mark then longestRun mark (run + 1) cs else max run (longestRun mark 0 cs)

def quotesFor (cs : List Char) : Quotes :=
  let coded := cs.any needsCode
  let escaped := cs.contains '\\'
  let lines := cs.contains '\n'
  let singles := longestRun '\'' 0 cs
  let doubles := longestRun '"' 0 cs
  if !coded && !escaped && doubles = 0 && !lines then .basic
  else if !coded && singles = 0 && !lines then .literal
  else if !coded && !escaped && doubles ≤ 2 then .basicLines
  else if !coded && singles ≤ 2 then .literalLines
  else if lines then .basicLines
  else .basic

/-- The characters with escapes. Up to `room` quotes one after the other need none, and
    `run` of them come before. -/
def escape (lines : Bool) (room run : Nat) : List Char → List Char
  | [] => []
  | c :: cs =>
      if c = '"' then
        if run < room then c :: escape lines room (run + 1) cs
        else '\\' :: '"' :: escape lines room 0 cs
      else
        let written :=
          if c = '\x08' then ['\\', 'b']
          else if c = '\t' then ['\\', 't']
          else if c = '\n' then if lines then ['\n'] else ['\\', 'n']
          else if c = '\x0c' then ['\\', 'f']
          else if c = '\r' then ['\\', 'r']
          else if c = '\\' then ['\\', '\\']
          else if needsCode c then
            '\\' :: 'u' :: (Text.paddedDigits 4 16 c.toNat).map Char.toUpper
          else [c]
        written ++ escape lines room 0 cs

/-- A string. A first line is left empty if there are others. -/
def quoted (text : String) : String :=
  let cs := text.toList
  let quotes := quotesFor cs
  let start := if quotes.hasLines && cs.contains '\n' then "\n" else ""
  let inner :=
    if quotes.escapes then
      escape quotes.hasLines (if quotes.hasLines then 2 else 0) 0 cs
    else cs
  quotes.marks ++ start ++ .ofList inner ++ quotes.marks

/-- A table with its header, given its keys and written values. -/
def printTable (name : String) (entries : List (String × String)) : String :=
  let lines := entries.map fun (key, value) => key ++ " = " ++ value ++ "\n"
  "[" ++ name ++ "]\n" ++ String.join lines

/-- Tables with their headers, and an empty line between them. -/
def printTables (tables : List (String × List (String × String))) : String :=
  "\n".intercalate (tables.map fun (name, entries) => printTable name entries)

end ArticleTree.Toml
