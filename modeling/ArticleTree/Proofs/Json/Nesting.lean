import ArticleTree.Proofs.Json.Printing
import Mathlib.Order.MinMax

/-! # How deeply values are nested

A value is made of what stands in a text only if there is room for it: arrays and objects may
stand in each other only so many times. A plain value is made of its own text exactly if it is
nested that deeply at most.
-/

namespace ArticleTree

namespace Json

mutual

/-- How many arrays and objects stand in each other. -/
def nesting : Json → Nat
  | array items => nestingAll items + 1
  | object fields => nestingFields fields + 1
  | _ => 0

def nestingAll : List Json → Nat
  | [] => 0
  | item :: items => max item.nesting (nestingAll items)

def nestingFields : List (String × Json) → Nat
  | [] => 0
  | (_, value) :: fields => max value.nesting (nestingFields fields)

end

@[simp] theorem nesting_bool (value : Bool) : (bool value).nesting = 0 := rfl

@[simp] theorem nesting_integer (value : Int) : (integer value).nesting = 0 := rfl

@[simp] theorem nesting_string (value : String) : (string value).nesting = 0 := rfl

variable {n room : Nat}

theorem nestingAll_le {items : List Json} :
    nestingAll items ≤ n ↔ ∀ item ∈ items, item.nesting ≤ n := by
  induction items with
  | nil => simp [nestingAll]
  | cons item items ih => simp [nestingAll, ih]

theorem nestingFields_le {fields : List (String × Json)} :
    nestingFields fields ≤ n ↔ ∀ field ∈ fields, field.2.nesting ≤ n := by
  induction fields with
  | nil => simp [nestingFields]
  | cons field fields ih => simp [nestingFields, ih]

theorem nesting_array_le {items : List Json} :
    (array items).nesting ≤ n + 1 ↔ ∀ item ∈ items, item.nesting ≤ n := by
  rw [nesting, Nat.add_le_add_iff_right, nestingAll_le]

theorem nesting_object_le {fields : List (String × Json)} :
    (object fields).nesting ≤ n + 1 ↔ ∀ field ∈ fields, field.2.nesting ≤ n := by
  rw [nesting, Nat.add_le_add_iff_right, nestingFields_le]

/-! ## Making values -/

theorem values?_written {items : List Json}
    (h : ∀ item ∈ items, item.written.value? room =
      if item.nesting ≤ room then some item else none) :
    Written.values? room (writtenAll items) =
      if nestingAll items ≤ room then some items else none := by
  induction items with
  | nil => rfl
  | cons item items ih =>
      obtain ⟨hitem, hitems⟩ := List.forall_mem_cons.1 h
      rw [writtenAll, Written.values?, hitem, ih hitems, nestingAll]
      by_cases hfirst : item.nesting ≤ room <;> by_cases hothers : nestingAll items ≤ room <;>
        simp [hfirst, hothers]

theorem fieldValues?_written {fields : List (String × Json)}
    (h : ∀ field ∈ fields, field.2.written.value? room =
      if field.2.nesting ≤ room then some field.2 else none) :
    Written.fieldValues? room (writtenFields fields) =
      if nestingFields fields ≤ room then some fields else none := by
  induction fields with
  | nil => rfl
  | cons field fields ih =>
      obtain ⟨hfield, hfields⟩ := List.forall_mem_cons.1 h
      rw [writtenFields, Written.fieldValues?, stringText?_map_partOf, hfield, ih hfields,
        nestingFields]
      by_cases hfirst : field.2.nesting ≤ room <;>
        by_cases hothers : nestingFields fields ≤ room <;> simp [hfirst, hothers]

/-- A plain value is made of its parts if there is room for it. -/
theorem value?_written {value : Json} (h : value.Plain) (room : Nat) :
    value.written.value? room = if value.nesting ≤ room then some value else none := by
  induction h generalizing room with
  | bool => rfl
  | natural hn => simp [written, Written.value?, numberValue?, naturalNumber, numberOf_toDigits, hn,
      nesting]
  | @string text =>
      rw [written, Written.value?, stringText?_map_partOf]
      rfl
  | array _ ih =>
      cases room with
      | zero => rfl
      | succ room =>
          have hitems := values?_written fun item hitem => ih item hitem room
          simp only [written, Written.value?, hitems, nesting, Nat.add_le_add_iff_right]
          split <;> rfl
  | object _ ih =>
      cases room with
      | zero => rfl
      | succ room =>
          have hfields := fieldValues?_written fun field hfield => ih field hfield room
          simp only [written, Written.value?, hfields, nesting, Nat.add_le_add_iff_right]
          split <;> rfl

namespace Written

mutual

/-- How many arrays and objects of a text stand in each other. -/
def nesting : Written → Nat
  | array items => nestingAll items + 1
  | object fields => nestingFields fields + 1
  | _ => 0

def nestingAll : List Written → Nat
  | [] => 0
  | item :: items => max item.nesting (nestingAll items)

def nestingFields : List (List StringPart × Written) → Nat
  | [] => 0
  | (_, value) :: fields => max value.nesting (nestingFields fields)

end

theorem nesting_of_numberValue? {text : Text.Decimal} {value : Json}
    (h : numberValue? text = some value) : value.nesting = 0 := by
  unfold numberValue? at h
  dsimp only at h
  repeat' split at h
  all_goals cases h
  all_goals rfl

mutual

/-- A value is nested no deeper than the text it is made of. -/
theorem nesting_le_of_value? (written : Written) {room : Nat} {value : Json}
    (h : written.value? room = some value) : value.nesting ≤ written.nesting := by
  cases written with
  | null | bool _ =>
      cases h
      exact Nat.le_refl 0
  | number text => exact (nesting_of_numberValue? h).le
  | string parts =>
      obtain ⟨text, -, rfl⟩ := Option.map_eq_some_iff.1 h
      exact Nat.le_refl 0
  | array items =>
      cases room with
      | zero => cases h
      | succ room =>
          obtain ⟨values, hvalues, rfl⟩ := Option.map_eq_some_iff.1 h
          exact Nat.succ_le_succ (nestingAll_le_of_values? items hvalues)
  | object fields =>
      cases room with
      | zero => cases h
      | succ room =>
          obtain ⟨values, hvalues, rfl⟩ := Option.map_eq_some_iff.1 h
          exact Nat.succ_le_succ (nestingFields_le_of_fieldValues? fields hvalues)

theorem nestingAll_le_of_values? (items : List Written) {room : Nat} {values : List Json}
    (h : values? room items = some values) : Json.nestingAll values ≤ nestingAll items := by
  cases items with
  | nil =>
      cases h
      exact Nat.le_refl 0
  | cons item items =>
      obtain ⟨value, hvalue, h⟩ := Option.bind_eq_some_iff.1 h
      obtain ⟨values, hvalues, h⟩ := Option.bind_eq_some_iff.1 h
      cases h
      exact max_le_max (nesting_le_of_value? item hvalue) (nestingAll_le_of_values? items hvalues)

theorem nestingFields_le_of_fieldValues? (fields : List (List StringPart × Written)) {room : Nat}
    {values : List (String × Json)} (h : fieldValues? room fields = some values) :
    Json.nestingFields values ≤ nestingFields fields := by
  cases fields with
  | nil =>
      cases h
      exact Nat.le_refl 0
  | cons field fields =>
      obtain ⟨name, -, h⟩ := Option.bind_eq_some_iff.1 h
      obtain ⟨value, hvalue, h⟩ := Option.bind_eq_some_iff.1 h
      obtain ⟨values, hvalues, h⟩ := Option.bind_eq_some_iff.1 h
      cases h
      exact max_le_max (nesting_le_of_value? field.2 hvalue)
        (nestingFields_le_of_fieldValues? fields hvalues)

end

theorem nesting_lt_array {items : List Written} {item : Written} (h : item ∈ items) :
    item.nesting < (array items).nesting := by
  refine Nat.lt_succ_of_le ?_
  induction items with
  | nil => cases h
  | cons first items ih =>
      rcases List.mem_cons.1 h with rfl | h
      · exact Nat.le_max_left _ _
      · exact (ih h).trans (Nat.le_max_right _ _)

theorem nesting_lt_object {fields : List (List StringPart × Written)}
    {field : List StringPart × Written} (h : field ∈ fields) :
    field.2.nesting < (object fields).nesting := by
  refine Nat.lt_succ_of_le ?_
  induction fields with
  | nil => cases h
  | cons first fields ih =>
      rcases List.mem_cons.1 h with rfl | h
      · exact Nat.le_max_left _ _
      · exact (ih h).trans (Nat.le_max_right _ _)

end Written

mutual

/-- A value is nested as deeply as its text. -/
theorem nesting_written (value : Json) : value.written.nesting = value.nesting := by
  cases value with
  | array items => exact congrArg (· + 1) (nestingAll_written items)
  | object fields => exact congrArg (· + 1) (nestingFields_written fields)
  | _ => rfl

theorem nestingAll_written (items : List Json) :
    Written.nestingAll (writtenAll items) = nestingAll items := by
  cases items with
  | nil => rfl
  | cons item items => exact congrArg₂ max (nesting_written item) (nestingAll_written items)

theorem nestingFields_written (fields : List (String × Json)) :
    Written.nestingFields (writtenFields fields) = nestingFields fields := by
  cases fields with
  | nil => rfl
  | cons field fields =>
      exact congrArg₂ max (nesting_written field.2) (nestingFields_written fields)

end

/-! ## Texts of values -/

/-- The texts of a value, on one line and indented. -/
def texts (value : Json) : List String :=
  [value.compact, value.pretty]

section

variable {value : Json} {text : String}

theorem Plain.written_of_mem_texts (h : value.Plain) (htext : text ∈ value.texts) :
    Written.parse? text = some value.written := by
  rcases List.mem_pair.1 htext with rfl | rfl
  · exact h.parse?_compact
  · exact h.parse?_pretty

/-- A plain value is read back from its texts, unless it is nested too deeply. -/
theorem Plain.parse?_of_mem_texts (h : value.Plain) (htext : text ∈ value.texts) :
    parse? text = if value.nesting ≤ maxNesting then some value else none := by
  rw [parse?, h.written_of_mem_texts htext, Option.bind_some, value?_written h]

end

/-- An object whose fields are strings. -/
def ofStrings (fields : List (String × String)) : Json :=
  .object (fields.map fun (name, value) => (name, .string value))

theorem plain_ofStrings (fields : List (String × String)) : (ofStrings fields).Plain := by
  refine .object fun field hmem => ?_
  obtain ⟨entry, -, rfl⟩ := List.mem_map.1 hmem
  exact .string

theorem nesting_ofStrings_le (fields : List (String × String)) (n : Nat) :
    (ofStrings fields).nesting ≤ n + 1 := by
  refine nesting_object_le.2 fun field hmem => ?_
  obtain ⟨entry, -, rfl⟩ := List.mem_map.1 hmem
  exact Nat.zero_le n

theorem parse?_ofStrings (fields : List (String × String)) :
    parse? (ofStrings fields).compact = some (ofStrings fields) := by
  rw [(plain_ofStrings fields).parse?_of_mem_texts List.mem_cons_self]
  exact if_pos (nesting_ofStrings_le fields _)

end Json

end ArticleTree
