import ArticleTree.Proofs.Json.Parts
import ArticleTree.Proofs.Text.Affix
import Mathlib.Data.List.TakeDrop

/-! # Strings are shorter than the JSON they are read from

A character of a string takes at least one character of the text, and its quotes take two more. So
what holds of all texts that are shorter than the JSON by two holds of all strings in it.
-/

namespace ArticleTree.Json

/-! ## Reading -/

/-- A part of a string takes a character, and the closing quote takes one. -/
theorem length_stringParts?_le {cs rest : List Char} {parts : List StringPart}
    (h : stringParts? cs = some (parts, rest)) : parts.length + rest.length + 1 ≤ cs.length := by
  fun_induction stringParts? cs generalizing parts rest with
  | case1 => cases h
  | case2 rest' =>
      cases h
      simp
  | case3 a b c d cs ih =>
      obtain ⟨value, -, h⟩ := Option.bind_eq_some_iff.1 h
      obtain ⟨⟨parts, rest⟩, hparts, h⟩ := Option.bind_eq_some_iff.1 h
      cases h
      have hle := ih hparts
      simp only [List.length_cons]
      omega
  | case4 e cs _ ih =>
      obtain ⟨c, -, h⟩ := Option.bind_eq_some_iff.1 h
      obtain ⟨⟨parts, rest⟩, hparts, h⟩ := Option.bind_eq_some_iff.1 h
      cases h
      have hle := ih hparts
      simp only [List.length_cons]
      omega
  | case5 => cases h
  | case6 c cs _ _ _ _ ih =>
      obtain ⟨⟨parts, rest⟩, hparts, h⟩ := Option.map_eq_some_iff.1 h
      cases h
      have hle := ih hparts
      simp only [List.length_cons]
      omega

theorem length_skipSpace_le (cs : List Char) : (skipSpace cs).length ≤ cs.length :=
  (List.dropWhile_suffix isSpace).length_le

theorem length_someDigits?_le {cs found rest : List Char}
    (h : someDigits? cs = some (found, rest)) : rest.length ≤ cs.length := by
  unfold someDigits? digits at h
  rw [List.span_eq_takeWhile_dropWhile] at h
  split at h
  · cases h
  · cases h
    exact (List.dropWhile_suffix Char.isDigit).length_le

theorem length_wholePart?_le {cs found rest : List Char} (h : wholePart? cs = some (found, rest)) :
    rest.length ≤ cs.length := by
  unfold wholePart? at h
  split at h
  · cases h
    exact Nat.le_succ _
  · exact length_someDigits?_le h

theorem length_fractionPart?_le {cs found rest : List Char}
    (h : fractionPart? cs = some (found, rest)) : rest.length ≤ cs.length := by
  unfold fractionPart? at h
  split at h
  · exact Nat.le_succ_of_le (length_someDigits?_le h)
  · cases h
    exact Nat.le_refl _

theorem length_exponentPart?_le {cs rest : List Char} {found : Option (Bool × List Char)}
    (h : exponentPart? cs = some (found, rest)) : rest.length ≤ cs.length := by
  unfold exponentPart? at h
  split at h
  · rename_i c cs
    split at h
    · obtain ⟨⟨digits, rest⟩, hdigits, h⟩ := Option.map_eq_some_iff.1 h
      cases h
      have hle := length_someDigits?_le hdigits
      rw [List.length_cons]
      refine hle.trans ?_
      split
      · exact (Nat.le_succ _).trans (Nat.le_succ _)
      · exact (Nat.le_succ _).trans (Nat.le_succ _)
      · exact Nat.le_succ _
    · cases h
      exact Nat.le_refl _
  · cases h
    exact Nat.le_refl _

theorem length_number?_le {cs rest : List Char} {text : Text.Decimal}
    (h : number? cs = some (text, rest)) : rest.length ≤ cs.length := by
  unfold number? at h
  obtain ⟨⟨whole, afterWhole⟩, hwhole, h⟩ := Option.bind_eq_some_iff.1 h
  obtain ⟨⟨fraction, afterFraction⟩, hfraction, h⟩ := Option.bind_eq_some_iff.1 h
  obtain ⟨⟨exponent, afterExponent⟩, hexponent, h⟩ := Option.bind_eq_some_iff.1 h
  cases h
  refine (length_exponentPart?_le hexponent).trans ?_
  refine (length_fractionPart?_le hfraction).trans ?_
  refine (length_wholePart?_le hwhole).trans ?_
  split
  · exact Nat.le_succ _
  · exact Nat.le_refl _

/-- All strings are shorter than this by their quotes at least. -/
inductive Written.Within (n : Nat) : Written → Prop where
  | null : Written.null.Within n
  | bool {value : Bool} : (Written.bool value).Within n
  | number {text : Text.Decimal} : (Written.number text).Within n
  | string {parts : List StringPart} : parts.length + 2 ≤ n → (Written.string parts).Within n
  | array {items : List Written} : (∀ item ∈ items, item.Within n) → (Written.array items).Within n
  | object {fields : List (List StringPart × Written)} :
      (∀ field ∈ fields, field.2.Within n) → (Written.object fields).Within n

/-- What is read in this many steps has strings as long as the text allows, and leaves no more than
    was there. -/
structure ReadsWithin (n steps : Nat) : Prop where
  value : ∀ cs written rest, cs.length ≤ n → value? steps cs = some (written, rest) →
    written.Within n ∧ rest.length ≤ cs.length
  items : ∀ cs written rest, cs.length ≤ n → items? steps cs = some (written, rest) →
    (∀ item ∈ written, item.Within n) ∧ rest.length ≤ cs.length
  fields : ∀ cs written rest, cs.length ≤ n → fields? steps cs = some (written, rest) →
    (∀ field ∈ written, field.2.Within n) ∧ rest.length ≤ cs.length

/-- What follows a mark after spaces. -/
theorem length_of_skipSpace_eq_cons {cs rest : List Char} {mark : Char}
    (h : skipSpace cs = mark :: rest) : rest.length + 1 ≤ cs.length := by
  have hle := length_skipSpace_le cs
  rwa [h] at hle

section

variable {n steps : Nat} {cs rest : List Char}

theorem within_value?_string (hn : cs.length ≤ n) {inner : List Char} {written : Written}
    (hskip : skipSpace cs = '"' :: inner)
    (h : ((stringParts? inner).map fun (parts, rest) => (Written.string parts, rest)) =
      some (written, rest)) : written.Within n ∧ rest.length ≤ cs.length := by
  obtain ⟨⟨parts, rest⟩, hparts, h⟩ := Option.map_eq_some_iff.1 h
  cases h
  have hle := length_stringParts?_le hparts
  have hinner := length_of_skipSpace_eq_cons hskip
  exact ⟨.string (by omega), by omega⟩

theorem length_dropStart?_le {start : List Char} (h : Text.dropStart? start cs = some rest) :
    rest.length ≤ cs.length := by
  rw [Text.dropStart?_eq_some.1 h, List.length_append]
  exact Nat.le_add_left ..

theorem within_value? (ih : ReadsWithin n steps) (hn : cs.length ≤ n) {written : Written}
    (h : value? (steps + 1) cs = some (written, rest)) :
    written.Within n ∧ rest.length ≤ cs.length := by
  rw [value?] at h
  split at h
  · rename_i inner hskip
    exact within_value?_string hn hskip h
  · rename_i inner hskip
    have hinner := length_of_skipSpace_eq_cons hskip
    split at h
    · rename_i after hempty
      cases h
      have hafter := length_of_skipSpace_eq_cons hempty
      exact ⟨.array (by simp), by omega⟩
    · obtain ⟨⟨items, rest⟩, hitems, h⟩ := Option.map_eq_some_iff.1 h
      cases h
      have hspace := length_skipSpace_le inner
      obtain ⟨hwithin, hrest⟩ := ih.items _ _ _ (by omega) hitems
      exact ⟨.array hwithin, by omega⟩
  · rename_i inner hskip
    have hinner := length_of_skipSpace_eq_cons hskip
    split at h
    · rename_i after hempty
      cases h
      have hafter := length_of_skipSpace_eq_cons hempty
      exact ⟨.object (by simp), by omega⟩
    · obtain ⟨⟨fields, rest⟩, hfields, h⟩ := Option.map_eq_some_iff.1 h
      cases h
      have hspace := length_skipSpace_le inner
      obtain ⟨hwithin, hrest⟩ := ih.fields _ _ _ (by omega) hfields
      exact ⟨.object hwithin, by omega⟩
  · have hspace := length_skipSpace_le cs
    split at h
    · rename_i hnull
      cases h
      exact ⟨.null, (length_dropStart?_le hnull).trans hspace⟩
    · rename_i htrue _
      cases h
      exact ⟨.bool, (length_dropStart?_le htrue).trans hspace⟩
    · rename_i hfalse _ _
      cases h
      exact ⟨.bool, (length_dropStart?_le hfalse).trans hspace⟩
    · obtain ⟨⟨text, rest⟩, hnumber, h⟩ := Option.map_eq_some_iff.1 h
      cases h
      exact ⟨.number, (length_number?_le hnumber).trans hspace⟩

theorem within_items? (ih : ReadsWithin n steps) (hn : cs.length ≤ n) {written : List Written}
    (h : items? (steps + 1) cs = some (written, rest)) :
    (∀ item ∈ written, item.Within n) ∧ rest.length ≤ cs.length := by
  rw [items?] at h
  obtain ⟨⟨item, afterItem⟩, hitem, h⟩ := Option.bind_eq_some_iff.1 h
  obtain ⟨hwithin, hafter⟩ := ih.value _ _ _ hn hitem
  dsimp only at h
  split at h
  · rename_i inner hskip
    obtain ⟨⟨items, rest⟩, hitems, h⟩ := Option.bind_eq_some_iff.1 h
    cases h
    have hinner := length_of_skipSpace_eq_cons hskip
    obtain ⟨hothers, hrest⟩ := ih.items _ _ _ (by omega) hitems
    exact ⟨List.forall_mem_cons.2 ⟨hwithin, hothers⟩, hrest.trans (by omega)⟩
  · rename_i inner hskip
    cases h
    have hinner := length_of_skipSpace_eq_cons hskip
    exact ⟨List.forall_mem_singleton.2 hwithin, by omega⟩
  · cases h

theorem within_fields? (ih : ReadsWithin n steps) (hn : cs.length ≤ n)
    {written : List (List StringPart × Written)}
    (h : fields? (steps + 1) cs = some (written, rest)) :
    (∀ field ∈ written, field.2.Within n) ∧ rest.length ≤ cs.length := by
  rw [fields?] at h
  split at h
  · rename_i inner hskip
    have hinner := length_of_skipSpace_eq_cons hskip
    obtain ⟨⟨name, afterName⟩, hname, h⟩ := Option.bind_eq_some_iff.1 h
    have hafterName := length_stringParts?_le hname
    dsimp only at h
    split at h
    · rename_i beforeValue hcolon
      have hbefore := length_of_skipSpace_eq_cons hcolon
      obtain ⟨⟨value, afterValue⟩, hvalue, h⟩ := Option.bind_eq_some_iff.1 h
      obtain ⟨hwithin, hafter⟩ := ih.value _ _ _ (by omega) hvalue
      dsimp only at h
      split at h
      · rename_i beforeFields hcomma
        have hcommaLength := length_of_skipSpace_eq_cons hcomma
        obtain ⟨⟨fields, rest⟩, hfields, h⟩ := Option.bind_eq_some_iff.1 h
        cases h
        obtain ⟨hothers, hrest⟩ := ih.fields _ _ _ (by omega) hfields
        exact ⟨List.forall_mem_cons.2 ⟨hwithin, hothers⟩, hrest.trans (by omega)⟩
      · rename_i inner' hbrace
        cases h
        have hend := length_of_skipSpace_eq_cons hbrace
        exact ⟨List.forall_mem_singleton.2 hwithin, by omega⟩
      · cases h
    · cases h
  · cases h

theorem readsWithin (n steps : Nat) : ReadsWithin n steps := by
  induction steps with
  | zero =>
      refine ⟨?_, ?_, ?_⟩
      all_goals
        intro cs written rest hn h
        cases h
  | succ steps ih =>
      exact ⟨fun _ _ _ hn h => within_value? ih hn h, fun _ _ _ hn h => within_items? ih hn h,
        fun _ _ _ hn h => within_fields? ih hn h⟩

/-- Every string of a text is shorter than the text by its quotes at least. -/
theorem Written.within_parse? {text : String} {written : Written}
    (h : Written.parse? text = some written) : written.Within text.length := by
  unfold Written.parse? at h
  dsimp only at h
  split at h
  · rename_i found rest hread
    split at h
    · cases h
      exact ((readsWithin _ _).value _ _ _ (Nat.le_refl _) hread).1
    · cases h
  · cases h

end

/-! ## Values -/

/-- Two parts may be one character, but no part is more than one. -/
theorem length_stringChars?_le {parts : List StringPart} {cs : List Char}
    (h : stringChars? parts = some cs) : cs.length ≤ parts.length := by
  fun_induction stringChars? parts generalizing cs with
  | case1 =>
      cases h
      exact Nat.le_refl 0
  | case2 c parts ih =>
      obtain ⟨cs, hcs, rfl⟩ := Option.map_eq_some_iff.1 h
      exact Nat.succ_le_succ (ih hcs)
  | case3 high low parts _ _ ih =>
      obtain ⟨cs, hcs, rfl⟩ := Option.map_eq_some_iff.1 h
      exact (Nat.succ_le_succ (ih hcs)).trans (Nat.le_succ _)
  | case6 high low parts _ _ ih =>
      obtain ⟨cs, hcs, rfl⟩ := Option.map_eq_some_iff.1 h
      exact Nat.succ_le_succ (ih hcs)
  | case8 unit parts _ _ ih =>
      obtain ⟨cs, hcs, rfl⟩ := Option.map_eq_some_iff.1 h
      exact Nat.succ_le_succ (ih hcs)
  | case4 | case5 | case7 => cases h

theorem length_stringText?_le {parts : List StringPart} {s : String}
    (h : stringText? parts = some s) : s.length ≤ parts.length := by
  obtain ⟨cs, hcs, rfl⟩ := Option.map_eq_some_iff.1 h
  rw [String.length_ofList]
  exact length_stringChars?_le hcs

/-- All strings are shorter than this by two at least. -/
inductive Within (n : Nat) : Json → Prop where
  | null : null.Within n
  | bool {value : Bool} : (bool value).Within n
  | integer {value : Int} : (integer value).Within n
  | real {literal : String} : (real literal).Within n
  | string {text : String} : text.length + 2 ≤ n → (string text).Within n
  | array {items : List Json} : (∀ item ∈ items, item.Within n) → (array items).Within n
  | object {fields : List (String × Json)} :
      (∀ field ∈ fields, field.2.Within n) → (object fields).Within n

variable {n : Nat}

namespace Written

theorem exists_mem_of_values? {room : Nat} {items : List Written} {values : List Json}
    (h : values? room items = some values) {value : Json} (hmem : value ∈ values) :
    ∃ item ∈ items, item.value? room = some value := by
  induction items generalizing values with
  | nil =>
      cases h
      cases hmem
  | cons item items ih =>
      obtain ⟨first, hfirst, h⟩ := Option.bind_eq_some_iff.1 h
      obtain ⟨others, hothers, h⟩ := Option.bind_eq_some_iff.1 h
      cases h
      rcases List.mem_cons.1 hmem with rfl | hmem
      · exact ⟨item, List.mem_cons_self, hfirst⟩
      · obtain ⟨found, hfound, hvalue⟩ := ih hothers hmem
        exact ⟨found, List.mem_cons_of_mem _ hfound, hvalue⟩

theorem exists_mem_of_fieldValues? {room : Nat} {fields : List (List StringPart × Written)}
    {values : List (String × Json)} (h : fieldValues? room fields = some values)
    {value : String × Json} (hmem : value ∈ values) :
    ∃ field ∈ fields, field.2.value? room = some value.2 := by
  induction fields generalizing values with
  | nil =>
      cases h
      cases hmem
  | cons field fields ih =>
      obtain ⟨name, -, h⟩ := Option.bind_eq_some_iff.1 h
      obtain ⟨first, hfirst, h⟩ := Option.bind_eq_some_iff.1 h
      obtain ⟨others, hothers, h⟩ := Option.bind_eq_some_iff.1 h
      cases h
      rcases List.mem_cons.1 hmem with rfl | hmem
      · exact ⟨field, List.mem_cons_self, hfirst⟩
      · obtain ⟨found, hfound, hvalue⟩ := ih hothers hmem
        exact ⟨found, List.mem_cons_of_mem _ hfound, hvalue⟩

/-- A number has no strings. -/
theorem within_of_numberValue? {text : Text.Decimal} {value : Json}
    (h : numberValue? text = some value) : value.Within n := by
  unfold numberValue? at h
  dsimp only at h
  repeat' split at h
  all_goals cases h
  all_goals
    first
      | exact .integer
      | exact .real

theorem Within.value? {written : Written} (h : written.Within n) {room : Nat} {value : Json}
    (hvalue : written.value? room = some value) : value.Within n := by
  induction h generalizing room value with
  | null =>
      cases hvalue
      exact .null
  | bool =>
      cases hvalue
      exact .bool
  | number => exact within_of_numberValue? hvalue
  | string hlength =>
      obtain ⟨text, htext, rfl⟩ := Option.map_eq_some_iff.1 hvalue
      have hle := length_stringText?_le htext
      exact .string (by omega)
  | array _ ih =>
      cases room with
      | zero => cases hvalue
      | succ room =>
          obtain ⟨values, hvalues, rfl⟩ := Option.map_eq_some_iff.1 hvalue
          refine .array fun value hmem => ?_
          obtain ⟨item, hitem, hread⟩ := exists_mem_of_values? hvalues hmem
          exact ih item hitem hread
  | object _ ih =>
      cases room with
      | zero => cases hvalue
      | succ room =>
          obtain ⟨values, hvalues, rfl⟩ := Option.map_eq_some_iff.1 hvalue
          refine .object fun value hmem => ?_
          obtain ⟨field, hfield, hread⟩ := exists_mem_of_fieldValues? hvalues hmem
          exact ih field hfield hread

theorem Within.record? {written : Written} (h : written.Within n) {names : List String}
    {fields : List (Option Written)} (hfields : written.record? names = some fields)
    {found : Written} (hfound : some found ∈ fields) : found.Within n := by
  rcases part_of_record? hfields hfound with ⟨items, rfl, hitem⟩ | ⟨fields, name, rfl, hfield⟩
  · cases h with
    | array hitems => exact hitems found hitem
  · cases h with
    | object hwithin => exact hwithin _ hfield

theorem Within.text? {written : Written} (h : written.Within n) {text : String}
    (htext : written.text? = some text) : text.length + 2 ≤ n := by
  cases h with
  | string hparts =>
      have hle := length_stringText?_le htext
      omega
  | _ => cases htext

end Written

/-- Every string of a value is shorter than the text that the value is read from. -/
theorem within_parse? {text : String} {value : Json} (h : parse? text = some value) :
    value.Within text.length := by
  obtain ⟨written, hwritten, hvalue⟩ := Option.bind_eq_some_iff.1 h
  exact (Written.within_parse? hwritten).value? hvalue

theorem Within.field? {value found : Json} (h : value.Within n) {name : String}
    (hfound : value.field? name = some found) : found.Within n := by
  cases h with
  | object hfields =>
      have hget := (Keyed.get?_ofList name _).trans hfound
      exact hfields _ (Keyed.mem_of_mem_ofList (Keyed.mem_of_get? hget))
  | _ => cases hfound

end ArticleTree.Json
