import ArticleTree.Proofs.Json.Strings
import ArticleTree.Proofs.Text.Affix
import Mathlib.Data.List.DropRight
import Mathlib.Data.List.Forall2
import Mathlib.Data.List.TakeDrop

/-! # Texts that values are read from

A text is read as a value if reading stops behind it, whatever follows, as long as that does not
go on with a number. So the texts of items, with blanks around them and marks between them, are
read as an array one after the other, and those of fields as an object.
-/

namespace ArticleTree.Json

/-! ## What follows a value -/

/-- The character would go on with a number. -/
def goesOn (c : Char) : Bool :=
  c.isDigit || c == '.' || c == 'e' || c == 'E'

/-- What follows does not go on with a number. -/
def Stops (rest : List Char) : Prop :=
  ∀ c, rest.head? = some c → goesOn c = false

theorem stops_nil : Stops [] := by
  rintro c ⟨⟩

theorem stops_cons {c : Char} (h : goesOn c = false) (rest : List Char) : Stops (c :: rest) := by
  rintro _ ⟨⟩
  exact h

/-- Spaces, which may stand between all parts of a value. -/
def IsBlank (cs : List Char) : Prop :=
  ∀ c ∈ cs, isSpace c = true

theorem goesOn_of_isSpace {c : Char} (h : isSpace c = true) : goesOn c = false := by
  rw [isSpace] at h
  simp only [Bool.or_eq_true, beq_iff_eq] at h
  rcases h with ((rfl | rfl) | rfl) | rfl <;> decide

theorem Stops.blank_append {blank rest : List Char} (hblank : IsBlank blank) (h : Stops rest) :
    Stops (blank ++ rest) := by
  cases blank with
  | nil => exact h
  | cons c blank => exact stops_cons (goesOn_of_isSpace (hblank c List.mem_cons_self)) _

theorem skipSpace_append {blank : List Char} (h : IsBlank blank) (cs : List Char) :
    skipSpace (blank ++ cs) = skipSpace cs :=
  List.dropWhile_append_of_pos h

theorem skipSpace_skipSpace (cs : List Char) : skipSpace (skipSpace cs) = skipSpace cs :=
  List.dropWhile_idempotent isSpace cs

theorem skipSpace_cons {c : Char} (h : isSpace c = false) (cs : List Char) :
    skipSpace (c :: cs) = c :: cs :=
  List.dropWhile_cons_of_neg (by simp [h])

variable {steps : Nat} {blank cs rest : List Char}

/-- Only what comes after the spaces counts. -/
theorem value?_congr {ds : List Char} (h : skipSpace cs = skipSpace ds) :
    value? steps cs = value? steps ds := by
  cases steps with
  | zero => rfl
  | succ steps => rw [value?, value?, h]

theorem items?_congr {ds : List Char} (h : skipSpace cs = skipSpace ds) :
    items? steps cs = items? steps ds := by
  cases steps with
  | zero => rfl
  | succ steps => rw [items?, items?, value?_congr h]

theorem fields?_congr {ds : List Char} (h : skipSpace cs = skipSpace ds) :
    fields? steps cs = fields? steps ds := by
  cases steps with
  | zero => rfl
  | succ steps => rw [fields?, fields?, h]

/-- The text is read as a value, whatever follows it. -/
def ReadsAs (cs : List Char) (written : Written) : Prop :=
  ∀ steps rest, cs.length ≤ steps → Stops rest → value? steps (cs ++ rest) = some (written, rest)

/-! ## Values without parts -/

theorem readsAs_bool (value : Bool) :
    ReadsAs (if value then "true" else "false").toList (.bool value) := by
  intro steps rest hsteps _
  cases steps with
  | zero => cases value <;> exact absurd hsteps (by decide)
  | succ steps => cases value <;> rfl

theorem readsAs_string (s : String) :
    ReadsAs (printString s).toList (.string (s.toList.map partOf)) := by
  intro steps rest hsteps _
  rw [printString, String.toList_ofList] at hsteps ⊢
  cases steps with
  | zero => simp at hsteps
  | succ steps =>
      rw [List.cons_append, List.cons_append, List.append_assoc, List.singleton_append, value?,
        skipSpace_cons (by decide)]
      exact congrArg (Option.map _) (stringParts?_printed s.toList rest)

/-! ## Numbers -/

/-- No zero stands before the digits of a number. -/
theorem head?_toDigits {n : Nat} (h : 0 < n) : (Nat.toDigits 10 n).head? ≠ some '0' := by
  have hdigit : ∀ m < 10, 0 < m → m.digitChar ≠ '0' := by decide
  revert h
  refine Nat.base_induction (P := fun n => 0 < n → (Nat.toDigits 10 n).head? ≠ some '0') 10
    (by decide) ?_ ?_
  · intro m hm hpos
    rw [Nat.toDigits_of_lt_base hm]
    exact fun hzero => hdigit m hm hpos (Option.some.inj hzero)
  · intro m k hk hm ih _
    rw [← Nat.toDigits_append_toDigits (by decide) hm hk,
      List.head?_append_of_ne_nil _ Nat.toDigits_ne_nil]
    exact ih hm

theorem digit?_of_isDigit {c : Char} (h : c.isDigit = true) :
    Text.digit? 10 c = some (c.toNat - '0'.toNat) := by
  obtain ⟨hlow, hhigh⟩ := Bool.and_eq_true_iff.1 h
  have hlow := of_decide_eq_true hlow
  have hhigh := of_decide_eq_true hhigh
  have hvalue : c.toNat - '0'.toNat < 10 := by
    have : c.toNat ≤ '9'.toNat := hhigh
    change c.toNat ≤ 57 at this
    change c.toNat - 48 < 10
    omega
  have hrange : ('0' ≤ c && c ≤ '9') = true := by
    exact Bool.and_eq_true_iff.2 ⟨decide_eq_true hlow, decide_eq_true hhigh⟩
  simp only [Text.digit?, hrange, if_true, hvalue]

theorem numberOf_toDigits (n : Nat) : Text.numberOf 10 (Nat.toDigits 10 n) = n := by
  have hdigits : ∀ (cs : List Char) (m : Nat), (∀ c ∈ cs, c.isDigit = true) →
      cs.foldl (fun n c => n * 10 + (Text.digit? 10 c).getD 0) m = Nat.ofDigitChars 10 cs m := by
    intro cs
    induction cs with
    | nil => exact fun m _ => rfl
    | cons c cs ih =>
        intro m h
        obtain ⟨hc, hcs⟩ := List.forall_mem_cons.1 h
        rw [List.foldl_cons, ih _ hcs, Nat.ofDigitChars_cons, digit?_of_isDigit hc, Nat.mul_comm]
        rfl
  rw [Text.numberOf, hdigits _ _ fun c => Nat.isDigit_of_mem_toDigits (by decide) (by decide)]
  exact Nat.ofDigitChars_ten_toDigits

theorem someDigits?_append {found : List Char} (hne : found ≠ [])
    (hfound : ∀ c ∈ found, c.isDigit = true) (hrest : Stops rest) :
    someDigits? (found ++ rest) = some (found, rest) := by
  have hend : rest.takeWhile Char.isDigit = [] ∧ rest.dropWhile Char.isDigit = rest := by
    cases rest with
    | nil => exact ⟨rfl, rfl⟩
    | cons c rest =>
        have hc : c.isDigit = false := by
          have := hrest c rfl
          simp only [goesOn, Bool.or_eq_false_iff] at this
          exact this.1.1.1
        exact ⟨List.takeWhile_cons_of_neg (by simp [hc]), List.dropWhile_cons_of_neg (by simp [hc])⟩
  rw [someDigits?, digits, List.span_eq_takeWhile_dropWhile, List.takeWhile_append_of_pos hfound,
    List.dropWhile_append_of_pos hfound, hend.1, hend.2, List.append_nil]
  cases found with
  | nil => exact absurd rfl hne
  | cons c found => rfl

theorem wholePart?_toDigits (n : Nat) (hrest : Stops rest) :
    wholePart? (Nat.toDigits 10 n ++ rest) = some (Nat.toDigits 10 n, rest) := by
  cases n with
  | zero => rfl
  | succ n =>
      have hdigits := someDigits?_append (Nat.toDigits_ne_nil (n := n + 1) (b := 10))
        (fun c => Nat.isDigit_of_mem_toDigits (by decide) (by decide)) hrest
      unfold wholePart?
      split
      · rename_i after heq
        have hzero := congrArg List.head? heq
        rw [List.head?_append_of_ne_nil _ Nat.toDigits_ne_nil] at hzero
        exact absurd hzero (head?_toDigits n.succ_pos)
      · exact hdigits

theorem fractionPart?_of_stops (hrest : Stops rest) : fractionPart? rest = some ([], rest) := by
  unfold fractionPart?
  split
  · exact absurd (hrest '.' rfl) (by decide)
  · rfl

theorem exponentPart?_of_stops (hrest : Stops rest) :
    exponentPart? rest = some (none, rest) := by
  cases rest with
  | nil => rfl
  | cons c rest =>
      have hc := hrest c rfl
      simp only [goesOn, Bool.or_eq_false_iff, beq_eq_false_iff_ne] at hc
      simp [exponentPart?, hc]

/-- A natural number, as it is written. -/
def naturalNumber (n : Nat) : Text.Decimal :=
  ⟨false, Nat.toDigits 10 n, [], none⟩

theorem isDigit_of_toDigits_append {n : Nat} {c : Char}
    (h : Nat.toDigits 10 n ++ rest = c :: cs) : c.isDigit = true := by
  have hhead := congrArg List.head? h
  rw [List.head?_append_of_ne_nil _ Nat.toDigits_ne_nil] at hhead
  exact Nat.isDigit_of_mem_toDigits (by decide) (by decide) (List.mem_of_mem_head? hhead)

theorem number?_toDigits (n : Nat) (hrest : Stops rest) :
    number? (Nat.toDigits 10 n ++ rest) = some (naturalNumber n, rest) := by
  unfold number?
  split
  rename_i negative cs hsign
  have hunsigned : negative = false ∧ cs = Nat.toDigits 10 n ++ rest := by
    split at hsign
    · rename_i heq
      cases isDigit_of_toDigits_append heq
    · cases hsign
      exact ⟨rfl, rfl⟩
  obtain ⟨rfl, rfl⟩ := hunsigned
  simp [wholePart?_toDigits n hrest, fractionPart?_of_stops hrest, exponentPart?_of_stops hrest,
    naturalNumber]

/-- What begins with a digit can only be a number. -/
theorem value?_of_isDigit {c : Char} (h : c.isDigit = true) :
    value? (steps + 1) (c :: cs) =
      (number? (c :: cs)).map fun (text, rest) => (.number text, rest) := by
  have hspace : isSpace c = false := by
    refine Bool.eq_false_iff.2 fun hspace => ?_
    rw [isSpace] at hspace
    simp only [Bool.or_eq_true, beq_iff_eq] at hspace
    rcases hspace with ((rfl | rfl) | rfl) | rfl <;> cases h
  rw [value?, skipSpace_cons hspace]
  split
  case h_1 _ heq | h_2 _ heq | h_3 _ heq =>
    cases heq
    cases h
  case h_4 =>
    split
    · rename_i hnull
      cases Text.dropStart?_eq_some.1 hnull
      cases h
    · rename_i htrue _
      cases Text.dropStart?_eq_some.1 htrue
      cases h
    · rename_i hfalse _ _
      cases Text.dropStart?_eq_some.1 hfalse
      cases h
    · rfl

theorem readsAs_natural (n : Nat) :
    ReadsAs (toString n).toList (.number (naturalNumber n)) := by
  intro steps rest hsteps hrest
  rw [Nat.toString_eq_repr, Nat.repr_eq_ofList_toDigits, String.toList_ofList] at hsteps ⊢
  obtain ⟨c, cs, hdigits⟩ : ∃ c cs, Nat.toDigits 10 n ++ rest = c :: cs :=
    List.exists_cons_of_ne_nil (by simp)
  cases steps with
  | zero => exact absurd (List.eq_nil_of_length_eq_zero (Nat.le_zero.1 hsteps)) Nat.toDigits_ne_nil
  | succ steps =>
      rw [hdigits, value?_of_isDigit (isDigit_of_toDigits_append hdigits), ← hdigits,
        number?_toDigits n hrest]
      rfl

/-! ## Arrays and objects -/

theorem items?_close (steps : Nat) (rest : List Char) : items? steps (']' :: rest) = none := by
  cases steps with
  | zero => rfl
  | succ steps => cases steps <;> rfl

theorem fields?_close (steps : Nat) (rest : List Char) :
    fields? steps ('\x7d' :: rest) = none := by
  cases steps <;> rfl

theorem value?_of_items? {items : List Written} (h : items? steps cs = some (items, rest)) :
    value? (steps + 1) ('[' :: cs) = some (.array items, rest) := by
  rw [← items?_congr (skipSpace_skipSpace cs)] at h
  -- No item begins with the closing bracket, so the array is not taken for an empty one.
  have hopen : ∀ after, skipSpace cs = ']' :: after → False := by
    intro after hclose
    rw [hclose, items?_close] at h
    cases h
  simp [value?, skipSpace_cons (by decide : isSpace '[' = false), h]

theorem value?_of_fields? {fields : List (List StringPart × Written)}
    (h : fields? steps cs = some (fields, rest)) :
    value? (steps + 1) ('\x7b' :: cs) = some (.object fields, rest) := by
  rw [← fields?_congr (skipSpace_skipSpace cs)] at h
  have hopen : ∀ after, skipSpace cs = '\x7d' :: after → False := by
    intro after hclose
    rw [hclose, fields?_close] at h
    cases h
  simp [value?, skipSpace_cons (by decide : isSpace '\x7b' = false), h]

/-- Parts with commas between them, and the closing mark behind them. -/
def closed (last : List Char) (close : Char) : List (List Char) → List Char
  | [] => [close]
  | [part] => part ++ (last ++ [close])
  | part :: next :: parts => part ++ ',' :: closed last close (next :: parts)

theorem ReadsAs.blank_append {written : Written} (hblank : IsBlank blank)
    (h : ReadsAs cs written) : ReadsAs (blank ++ cs) written := by
  intro steps rest hsteps hrest
  rw [List.append_assoc, value?_congr (skipSpace_append hblank (cs ++ rest))]
  exact h steps rest (by grind) hrest

/-- The text is read as a field, with its name first. -/
inductive FieldReadsAs : List Char → List StringPart × Written → Prop where
  | mk (name : String) {blank cs : List Char} {written : Written} (hblank : IsBlank blank)
      (h : ReadsAs cs written) :
      FieldReadsAs (blank ++ ((printString name).toList ++ ':' :: cs))
        (name.toList.map partOf, written)

/-- Reading a field comes from its opening quote to its colon, and from there to what follows it. -/
theorem FieldReadsAs.read {cs : List Char} {field : List StringPart × Written}
    (h : FieldReadsAs cs field) {steps : Nat} (hsteps : cs.length ≤ steps) (hrest : Stops rest) :
    ∃ name value, skipSpace (cs ++ rest) = '"' :: name ∧
      stringParts? name = some (field.1, ':' :: value) ∧
      skipSpace (':' :: value) = ':' :: value ∧ value? steps value = some (field.2, rest) := by
  cases h with
  | @mk name blank cs written hblank h =>
      refine ⟨name.toList.flatMap printChar ++ '"' :: ':' :: (cs ++ rest), cs ++ rest, ?_,
        stringParts?_printed _ _, skipSpace_cons (by decide) _, h steps rest (by grind) hrest⟩
      rw [List.append_assoc, skipSpace_append hblank, printString, String.toList_ofList]
      simp [skipSpace_cons (by decide : isSpace '"' = false)]

section

variable {last : List Char} {parts : List (List Char)} (hlast : IsBlank last)

include hlast

/-- The closing mark is found behind the spaces before it. -/
theorem skipSpace_last {close : Char} (hclose : isSpace close = false) (rest : List Char) :
    skipSpace (last ++ close :: rest) = close :: rest := by
  rw [skipSpace_append hlast, skipSpace_cons hclose]

theorem stops_last {close : Char} (hclose : goesOn close = false) (rest : List Char) :
    Stops (last ++ close :: rest) :=
  .blank_append hlast (stops_cons hclose rest)

theorem items?_closed {items : List Written} (h : List.Forall₂ ReadsAs parts items)
    (hne : parts ≠ []) {steps : Nat} (hsteps : (closed last ']' parts).length ≤ steps) :
    items? steps (closed last ']' parts ++ rest) = some (items, rest) := by
  induction h generalizing steps with
  | nil => exact absurd rfl hne
  | @cons part item parts items hpart hparts ih =>
      cases steps with
      | zero => cases hparts <;> simp [closed] at hsteps
      | succ steps =>
          cases hparts with
          | nil =>
              simp only [closed, List.length_append, List.length_singleton] at hsteps
              have hitem := hpart steps _ (by omega)
                (stops_last hlast (by decide : goesOn ']' = false) rest)
              have hend := skipSpace_last hlast (by decide : isSpace ']' = false) rest
              simp [closed, items?, hitem, hend]
          | @cons next nextItem parts items hnext hparts =>
              simp only [closed, List.length_append, List.length_cons] at hsteps
              have hitem := hpart steps _ (by omega)
                (stops_cons (by decide : goesOn ',' = false)
                  (closed last ']' (next :: parts) ++ rest))
              have hcomma := skipSpace_cons (by decide : isSpace ',' = false)
                (closed last ']' (next :: parts) ++ rest)
              have hothers : items? steps (closed last ']' (next :: parts) ++ rest) =
                  some (nextItem :: items, rest) := ih (by simp) (by omega)
              simp [closed, items?, hitem, hcomma, hothers]

theorem readsAs_array {items : List Written} (h : List.Forall₂ ReadsAs parts items) :
    ReadsAs ('[' :: closed last ']' parts) (.array items) := by
  intro steps rest hsteps _
  cases steps with
  | zero => cases hsteps
  | succ steps =>
      cases h with
      | nil => rfl
      | cons hpart hparts =>
          exact value?_of_items? <|
            items?_closed hlast (.cons hpart hparts) (by simp) (Nat.le_of_succ_le_succ hsteps)

theorem fields?_closed {fields : List (List StringPart × Written)}
    (h : List.Forall₂ FieldReadsAs parts fields) (hne : parts ≠ []) {steps : Nat}
    (hsteps : (closed last '\x7d' parts).length ≤ steps) :
    fields? steps (closed last '\x7d' parts ++ rest) = some (fields, rest) := by
  induction h generalizing steps with
  | nil => exact absurd rfl hne
  | @cons part field parts fields hpart hparts ih =>
      cases steps with
      | zero => cases hparts <;> simp [closed] at hsteps
      | succ steps =>
          cases hparts with
          | nil =>
              simp only [closed, List.length_append, List.length_singleton] at hsteps
              obtain ⟨name, value, hquote, hname, hcolon, hvalue⟩ :=
                hpart.read (by omega : part.length ≤ steps)
                  (stops_last hlast (by decide : goesOn '\x7d' = false) rest)
              have hend := skipSpace_last hlast (by decide : isSpace '\x7d' = false) rest
              simp [closed, fields?, hquote, hname, hcolon, hvalue, hend]
          | @cons next nextField parts fields hnext hparts =>
              simp only [closed, List.length_append, List.length_cons] at hsteps
              obtain ⟨name, value, hquote, hname, hcolon, hvalue⟩ :=
                hpart.read (by omega : part.length ≤ steps)
                  (stops_cons (by decide : goesOn ',' = false)
                    (closed last '\x7d' (next :: parts) ++ rest))
              have hcomma := skipSpace_cons (by decide : isSpace ',' = false)
                (closed last '\x7d' (next :: parts) ++ rest)
              have hothers : fields? steps (closed last '\x7d' (next :: parts) ++ rest) =
                  some (nextField :: fields, rest) := ih (by simp) (by omega)
              simp [closed, fields?, hquote, hname, hcolon, hvalue, hcomma, hothers]

theorem readsAs_object {fields : List (List StringPart × Written)}
    (h : List.Forall₂ FieldReadsAs parts fields) :
    ReadsAs ('\x7b' :: closed last '\x7d' parts) (.object fields) := by
  intro steps rest hsteps _
  cases steps with
  | zero => cases hsteps
  | succ steps =>
      cases h with
      | nil => rfl
      | cons hpart hparts =>
          exact value?_of_fields? <|
            fields?_closed hlast (.cons hpart hparts) (by simp) (Nat.le_of_succ_le_succ hsteps)

end

end ArticleTree.Json
