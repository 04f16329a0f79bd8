import ArticleTree.Proofs.Text.ByteOrder
import ArticleTree.Url.Basic

/-! # Percent encoding is read back

Where the percent sign itself is written as an escape, what is written stands for the bytes of the
characters, so no two texts are written alike. A segment means a dot, or two of them, only if it
is written from a dot or two.
-/

namespace ArticleTree

namespace Text

/-- Different texts have different bytes. -/
theorem flatMap_utf8EncodeChar_inj {cs ds : List Char} :
    cs.flatMap String.utf8EncodeChar = ds.flatMap String.utf8EncodeChar ↔ cs = ds := by
  refine ⟨fun h => ?_, fun h => by rw [h]⟩
  have hnot : ¬ cs < ds := fun hlt => List.lt_irrefl _ (h ▸ flatMap_utf8EncodeChar_lt hlt)
  have hnot' : ¬ ds < cs := fun hlt => List.lt_irrefl _ (h ▸ flatMap_utf8EncodeChar_lt hlt)
  exact List.le_antisymm (List.not_lt.1 hnot') (List.not_lt.1 hnot)

end Text

namespace Url

variable {set : EncodeSet}

/-! ## Reading back -/

/-- A byte is written with the digits of its two halves. -/
theorem escapedByte_ofNat : ∀ n < 256,
    let high := (Nat.digitChar (n / 16)).toUpper
    let low := (Nat.digitChar (n % 16)).toUpper
    escapedByte (UInt8.ofNat n) = ['%', high, low] ∧
      Text.digit? 16 high = some (n / 16) ∧ Text.digit? 16 low = some (n % 16) := by
  decide +kernel

theorem decode_escapedByte (byte : UInt8) (rest : List Char) :
    decode (escapedByte byte ++ rest) = byte :: decode rest := by
  obtain ⟨hescaped, hhigh, hlow⟩ := escapedByte_ofNat byte.toNat (UInt8.toNat_lt_size byte)
  rw [UInt8.ofNat_toNat] at hescaped
  rw [hescaped, List.cons_append, List.cons_append, List.cons_append, List.nil_append, decode,
    hhigh, hlow]
  dsimp only
  rw [Nat.div_add_mod', Nat.toUInt8_eq, UInt8.ofNat_toNat]

theorem decode_escapedBytes (bytes : List UInt8) (rest : List Char) :
    decode (bytes.flatMap escapedByte ++ rest) = bytes ++ decode rest := by
  induction bytes with
  | nil => rfl
  | cons byte bytes ih =>
      rw [List.flatMap_cons, List.append_assoc, decode_escapedByte, ih, List.cons_append]

theorem decode_cons_of_ne {c : Char} (h : c ≠ '%') (cs : List Char) :
    decode (c :: cs) = String.utf8EncodeChar c ++ decode cs := by
  rw [decode]
  intro _ _ _ heq _
  exact h heq

/-- What is written for characters stands for their bytes. -/
theorem decode_encode_append (hset : set '%' = true) (cs rest : List Char) :
    decode (encode set cs ++ rest) = cs.flatMap String.utf8EncodeChar ++ decode rest := by
  induction cs with
  | nil => rfl
  | cons c cs ih =>
      rw [encode, List.flatMap_cons, List.append_assoc, ← encode, encodeChar, List.flatMap_cons,
        List.append_assoc]
      split_ifs with hplain
      · have hc : c ≠ '%' := by
          rintro rfl
          rw [hset] at hplain
          simp at hplain
        rw [List.singleton_append, decode_cons_of_ne hc, ih]
      · rw [decode_escapedBytes, ih]

theorem decode_encode (hset : set '%' = true) (cs : List Char) :
    decode (encode set cs) = cs.flatMap String.utf8EncodeChar := by
  have h := decode_encode_append hset cs []
  rwa [List.append_nil, decode, List.append_nil] at h

theorem encode_inj (hset : set '%' = true) {cs ds : List Char} :
    encode set cs = encode set ds ↔ cs = ds := by
  refine ⟨fun h => ?_, fun h => by rw [h]⟩
  rw [← Text.flatMap_utf8EncodeChar_inj, ← decode_encode hset, ← decode_encode hset, h]

/-! ## Dots -/

theorem toLower_eq (c : Char) : c.toLower = c ∨ c.toLower.toNat = c.toNat + 32 ∧ 65 ≤ c.toNat := by
  by_cases hupper : c.val ≥ 'A'.val ∧ c.val ≤ 'Z'.val
  · right
    have hlower : c.toLower.val = c.val + ('a'.val - 'A'.val) := congrArg Char.val (dif_pos hupper)
    obtain ⟨hfirst, hlast⟩ := hupper
    rw [ge_iff_le, UInt32.le_iff_toNat_le] at hfirst
    rw [UInt32.le_iff_toNat_le] at hlast
    refine ⟨?_, hfirst⟩
    change c.toLower.val.toNat = c.val.toNat + 32
    rw [hlower, UInt32.toNat_add]
    exact Nat.mod_eq_of_lt (Nat.lt_of_le_of_lt (Nat.add_le_add_right hlast _) (by decide))
  · exact .inl (dif_neg hupper)

/-- A character that is no letter is the lower case of itself only. -/
theorem eq_of_toLower {c d : Char} (h : c.toLower = d) (hd : d.toNat < 97) : c = d := by
  rcases toLower_eq c with hsame | ⟨hlower, hfirst⟩
  · rw [← h, hsame]
  · rw [h] at hlower
    omega

theorem toLower_eq_e {c : Char} (h : c.toLower = 'e') : c = 'e' ∨ c = 'E' := by
  rcases toLower_eq c with hsame | ⟨hlower, -⟩
  · exact .inl (hsame.symm.trans h)
  · right
    have hnumber : c.toNat = 69 := by
      rw [h] at hlower
      exact Nat.add_right_cancel hlower.symm
    rw [← Char.ofNat_toNat c, hnumber]

/-- What means a dot stands for its byte, whatever follows it. -/
theorem exists_of_dot {start cs after : List Char}
    (hstart : start = ['.'] ∨ start = ['%', '2', 'e']) (h : cs.map Char.toLower = start ++ after) :
    ∃ rest, decode cs = 0x2e :: decode rest ∧ rest.map Char.toLower = after := by
  rcases hstart with rfl | rfl
  · obtain ⟨dot, rest, rfl, hdot, hrest⟩ := List.map_eq_cons_iff.1 h
    obtain rfl := eq_of_toLower hdot (by decide)
    exact ⟨rest, decode_cons_of_ne (by decide) rest, hrest⟩
  · obtain ⟨percent, cs, rfl, hpercent, h⟩ := List.map_eq_cons_iff.1 h
    obtain ⟨two, cs, rfl, htwo, h⟩ := List.map_eq_cons_iff.1 h
    obtain ⟨digit, rest, rfl, hdigit, hrest⟩ := List.map_eq_cons_iff.1 h
    obtain rfl := eq_of_toLower hpercent (by decide)
    obtain rfl := eq_of_toLower htwo (by decide)
    refine ⟨rest, ?_, hrest⟩
    rcases toLower_eq_e hdigit with rfl | rfl
    · rfl
    · rfl

theorem decode_of_isSingleDot {segment : String} (h : isSingleDot segment = true) :
    decode segment.toList = ['.'].flatMap String.utf8EncodeChar := by
  have hstart : ∃ start, (start = ['.'] ∨ start = ['%', '2', 'e']) ∧
      segment.toList.map Char.toLower = start ++ [] := by
    simpa [isSingleDot] using h
  obtain ⟨start, hstart, hcs⟩ := hstart
  obtain ⟨rest, hdecode, hrest⟩ := exists_of_dot hstart hcs
  rw [hdecode, List.map_eq_nil_iff.1 hrest]
  rfl

theorem decode_of_isDoubleDot {segment : String} (h : isDoubleDot segment = true) :
    decode segment.toList = ['.', '.'].flatMap String.utf8EncodeChar := by
  have hstarts : ∃ first second, (first = ['.'] ∨ first = ['%', '2', 'e']) ∧
      (second = ['.'] ∨ second = ['%', '2', 'e']) ∧
        segment.toList.map Char.toLower = first ++ (second ++ []) := by
    simpa [isDoubleDot, or_and_right, exists_or, or_assoc] using h
  obtain ⟨first, second, hfirst, hsecond, hcs⟩ := hstarts
  obtain ⟨middle, hdecode, hmiddle⟩ := exists_of_dot hfirst hcs
  obtain ⟨rest, hdecode', hrest⟩ := exists_of_dot hsecond hmiddle
  rw [hdecode, hdecode', List.map_eq_nil_iff.1 hrest]
  rfl

theorem isSingleDot_encode (hset : set '%' = true) (hdot : set '.' = false) {cs : List Char} :
    isSingleDot (.ofList (encode set cs)) = true ↔ cs = ['.'] := by
  constructor
  · intro h
    have hdecode := decode_of_isSingleDot h
    rwa [String.toList_ofList, decode_encode hset, Text.flatMap_utf8EncodeChar_inj] at hdecode
  · rintro rfl
    have hwritten : encode set ['.'] = ['.'] := by simp [encode, encodeChar, hdot]
    rw [hwritten]
    decide

theorem isDoubleDot_encode (hset : set '%' = true) (hdot : set '.' = false) {cs : List Char} :
    isDoubleDot (.ofList (encode set cs)) = true ↔ cs = ['.', '.'] := by
  constructor
  · intro h
    have hdecode := decode_of_isDoubleDot h
    rwa [String.toList_ofList, decode_encode hset, Text.flatMap_utf8EncodeChar_inj] at hdecode
  · rintro rfl
    have hwritten : encode set ['.', '.'] = ['.', '.'] := by simp [encode, encodeChar, hdot]
    rw [hwritten]
    decide

end Url

end ArticleTree
