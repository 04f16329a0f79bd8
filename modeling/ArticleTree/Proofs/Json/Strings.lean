import ArticleTree.Json.Printer
import ArticleTree.Json.Written
import Mathlib.Tactic.SplitIfs

/-! # Strings as they are written

A string is printed between quotes with some of its characters escaped. Reading takes back what
was printed and stops at the closing quote, whatever follows, so a printed string is never the
beginning of another one.
-/

namespace ArticleTree.Json

/-- What a printed character is read as: those without a letter of their own for an escape are
    read by their number. -/
def partOf (c : Char) : StringPart :=
  if c.toNat < 0x20 ∧ c ∉ ['\n', '\r', '\t', '\x08', '\x0c'] then .unit c.toNat else .char c

theorem partOf_of_le {c : Char} (h : 0x20 ≤ c.toNat) : partOf c = .char c := by
  simp [partOf, Nat.not_lt.2 h]

/-- The number of a control character is written with four digits. -/
theorem paddedDigits_control : ∀ n < 0x20,
    (Text.paddedDigits 4 16 n).length = 4 ∧
      Text.number? 16 (Text.paddedDigits 4 16 n) = some n := by
  decide +kernel

theorem stringParts?_escape {c e : Char} (he : e ≠ 'u') (hescaped : escaped? e = some c)
    (cs : List Char) :
    stringParts? ('\\' :: e :: cs) =
      (stringParts? cs).map fun (parts, rest) => (.char c :: parts, rest) := by
  rw [stringParts?, hescaped]
  · cases stringParts? cs <;> rfl
  · intro _ _ _ _ _ hu _
    exact he hu

/-- A printed character is read as one part. -/
theorem stringParts?_printChar (c : Char) (cs : List Char) :
    stringParts? (printChar c ++ cs) =
      (stringParts? cs).map fun (parts, rest) => (partOf c :: parts, rest) := by
  unfold printChar
  split_ifs with hquote hslash hline hreturn htab hback hform hcontrol
  · subst hquote
    exact stringParts?_escape (by decide) rfl cs
  · subst hslash
    exact stringParts?_escape (by decide) rfl cs
  · subst hline
    exact stringParts?_escape (by decide) rfl cs
  · subst hreturn
    exact stringParts?_escape (by decide) rfl cs
  · subst htab
    exact stringParts?_escape (by decide) rfl cs
  · subst hback
    exact stringParts?_escape (by decide) rfl cs
  · subst hform
    exact stringParts?_escape (by decide) rfl cs
  · obtain ⟨hlength, hnumber⟩ := paddedDigits_control _ hcontrol
    have hpart : partOf c = .unit c.toNat := by
      simp [partOf, hcontrol, hline, hreturn, htab, hback, hform]
    obtain ⟨a, b, d, e, hdigits⟩ : ∃ a b d e, Text.paddedDigits 4 16 c.toNat = [a, b, d, e] := by
      match Text.paddedDigits 4 16 c.toNat, hlength with
      | [a, b, d, e], _ => exact ⟨a, b, d, e, rfl⟩
    rw [hdigits] at hnumber ⊢
    simp only [List.cons_append, List.nil_append, stringParts?, hnumber, hpart]
    cases stringParts? cs <;> rfl
  · have hpart : partOf c = .char c := partOf_of_le (Nat.not_lt.1 hcontrol)
    rw [List.singleton_append, stringParts?, hpart]
    · simp [hcontrol, hslash]
    · exact hquote
    · intro _ _ _ _ _ heq _
      exact hslash heq
    · intro _ _ heq _
      exact hslash heq

theorem stringParts?_printed (cs rest : List Char) :
    stringParts? (cs.flatMap printChar ++ '"' :: rest) = some (cs.map partOf, rest) := by
  induction cs with
  | nil => rfl
  | cons c cs ih =>
      rw [List.flatMap_cons, List.append_assoc, stringParts?_printChar, ih]
      rfl

/-- A control character is no half of a surrogate pair. -/
theorem stringChars?_control {n : Nat} (h : n < 0x20) (parts : List StringPart) :
    stringChars? (.unit n :: parts) = (stringChars? parts).map (Char.ofNat n :: ·) := by
  have hhigh : ¬ 0xD800 ≤ n := by omega
  have hlow : ¬ 0xDC00 ≤ n := by omega
  cases parts with
  | nil => simp [stringChars?, hhigh]
  | cons part parts => cases part <;> simp [stringChars?, hhigh, hlow]

theorem stringChars?_map_partOf (cs : List Char) : stringChars? (cs.map partOf) = some cs := by
  induction cs with
  | nil => rfl
  | cons c cs ih =>
      rw [List.map_cons]
      by_cases hunit : c.toNat < 0x20 ∧ c ∉ ['\n', '\r', '\t', '\x08', '\x0c']
      · have hpart : partOf c = .unit c.toNat := if_pos hunit
        rw [hpart, stringChars?_control hunit.1, ih, Option.map_some, Char.ofNat_toNat]
      · have hpart : partOf c = .char c := if_neg hunit
        rw [hpart, stringChars?, ih]
        rfl

theorem stringText?_map_partOf (s : String) : stringText? (s.toList.map partOf) = some s := by
  rw [stringText?, stringChars?_map_partOf]
  simp

/-- The string can be told from the beginning of a text that was printed with it. -/
theorem eq_of_printed_append {s t : String} {rest rest' : List Char}
    (h : (printString s).toList ++ rest = (printString t).toList ++ rest') : s = t := by
  simp only [printString, String.toList_ofList, List.cons_append, List.append_assoc,
    List.nil_append, List.cons.injEq, true_and] at h
  have hparts := congrArg stringParts? h
  rw [stringParts?_printed, stringParts?_printed, Option.some.injEq, Prod.mk.injEq] at hparts
  have htext := congrArg stringText? hparts.1
  rwa [stringText?_map_partOf, stringText?_map_partOf, Option.some.injEq] at htext

end ArticleTree.Json
