import ArticleTree.Proofs.Json.ReadsAs

/-! # What is printed is found again

A value is printed on one line, or with every part on a line of its own. Both texts are read as
the same parts, however deeply they are nested: only making values of the parts has a bound.
-/

namespace ArticleTree.Json

/-- Values that trees are written as: nothing is null, and all numbers are natural ones of 64 bits
    at most. -/
inductive Plain : Json → Prop where
  | bool {value : Bool} : (bool value).Plain
  | natural {n : Nat} : n < UInt64.size → (integer n).Plain
  | string {text : String} : (string text).Plain
  | array {items : List Json} : (∀ item ∈ items, item.Plain) → (array items).Plain
  | object {fields : List (String × Json)} :
      (∀ field ∈ fields, field.2.Plain) → (object fields).Plain

mutual

/-- A plain value as it is found in a text. -/
def written : Json → Written
  | bool value => .bool value
  | integer value => .number (naturalNumber value.toNat)
  | string value => .string (value.toList.map partOf)
  | array items => .array (writtenAll items)
  | object fields => .object (writtenFields fields)
  | _ => .null

def writtenAll : List Json → List Written
  | [] => []
  | item :: items => item.written :: writtenAll items

def writtenFields : List (String × Json) → List (List StringPart × Written)
  | [] => []
  | (name, value) :: fields => (name.toList.map partOf, value.written) :: writtenFields fields

end

theorem writtenAll_eq_map (items : List Json) : writtenAll items = items.map written := by
  induction items with
  | nil => rfl
  | cons item items ih => rw [writtenAll, ih, List.map_cons]

theorem writtenFields_eq_map (fields : List (String × Json)) :
    writtenFields fields =
      fields.map fun field => (field.1.toList.map partOf, field.2.written) := by
  induction fields with
  | nil => rfl
  | cons field fields ih => rw [writtenFields, ih, List.map_cons]

theorem forall₂_map {α β γ : Type} {r : β → γ → Prop} {f : α → β} {g : α → γ} {l : List α}
    (h : ∀ a ∈ l, r (f a) (g a)) : List.Forall₂ r (l.map f) (l.map g) :=
  List.forall₂_map_left_iff.2 (List.forall₂_map_right_iff.2 (List.forall₂_same.2 h))

/-! ## Parts between brackets -/

theorem intercalate_closed (line last : List Char) (close : Char) {parts : List (List Char)}
    (hne : parts ≠ []) :
    line ++ ((',' :: line).intercalate parts ++ (last ++ [close])) =
      closed last close (parts.map (line ++ ·)) := by
  induction parts with
  | nil => exact absurd rfl hne
  | cons part parts ih =>
      cases parts with
      | nil => simp [closed]
      | cons next parts =>
          have hrest := ih (by simp)
          simp only [List.map_cons] at hrest ⊢
          rw [closed, ← hrest, List.intercalate_cons_cons]
          simp

/-- On one line the parts have nothing but commas between them. -/
theorem toList_between (opening close : Char) (parts : List String) :
    (String.singleton opening ++ ",".intercalate parts ++ String.singleton close).toList =
      opening :: closed [] close (parts.map String.toList) := by
  cases parts with
  | nil => simp [closed]
  | cons part parts =>
      have hclosed := intercalate_closed [] [] close
        (List.cons_ne_nil part.toList (parts.map String.toList))
      simp only [List.nil_append, List.map_id_fun'] at hclosed
      simpa [String.toList_intercalate] using hclosed

theorem toList_inLines (level : Nat) (opening close : Char) (parts : List String) :
    (inLines level (.singleton opening) (.singleton close) parts).toList =
      opening :: closed (newLine level).toList close
        ((parts.map String.toList).map ((newLine (level + 1)).toList ++ ·)) := by
  cases parts with
  | nil => simp [inLines, closed]
  | cons part parts =>
      rw [← intercalate_closed _ _ _ (by simp)]
      simp [inLines, String.toList_intercalate]

theorem isBlank_newLine (level : Nat) : IsBlank (newLine level).toList := by
  intro c hc
  rw [newLine, String.toList_ofList] at hc
  rcases List.mem_cons.1 hc with rfl | hc
  · decide
  · rw [List.eq_of_mem_replicate hc]
    decide

theorem isBlank_nil : IsBlank [] := by
  rintro c ⟨⟩

theorem isBlank_space : IsBlank [' '] :=
  List.forall_mem_singleton.2 rfl

/-! ## Values on one line -/

theorem toList_compact_array (items : List Json) :
    (array items).compact.toList =
      '[' :: closed [] ']' (items.map fun item => item.compact.toList) := by
  have hitems : compactItems items = items.map compact := by
    induction items with
    | nil => rfl
    | cons item items ih => rw [compactItems, ih, List.map_cons]
  rw [compact, hitems]
  exact (toList_between '[' ']' _).trans (by rw [List.map_map]; rfl)

theorem toList_compact_object (fields : List (String × Json)) :
    (object fields).compact.toList = '\x7b' :: closed [] '\x7d' (fields.map fun field =>
      [] ++ ((printString field.1).toList ++ ':' :: field.2.compact.toList)) := by
  have hfields : compactFields fields =
      fields.map fun field => printString field.1 ++ ":" ++ field.2.compact := by
    induction fields with
    | nil => rfl
    | cons field fields ih => rw [compactFields, ih, List.map_cons]
  rw [compact, hfields]
  refine (toList_between '\x7b' '\x7d' _).trans ?_
  simp [Function.comp_def]

theorem readsAs_compact {value : Json} (h : value.Plain) :
    ReadsAs value.compact.toList value.written := by
  induction h with
  | bool => exact readsAs_bool _
  | natural => exact readsAs_natural _
  | string => exact readsAs_string _
  | array _ ih =>
      rw [toList_compact_array, written, writtenAll_eq_map]
      exact readsAs_array isBlank_nil (forall₂_map ih)
  | object _ ih =>
      rw [toList_compact_object, written, writtenFields_eq_map]
      exact readsAs_object isBlank_nil <|
        forall₂_map fun field hfield => .mk field.1 isBlank_nil (ih field hfield)

/-! ## Values with indented parts -/

theorem toList_prettyAt_array (level : Nat) (items : List Json) :
    ((array items).prettyAt level).toList =
      '[' :: closed (newLine level).toList ']' (items.map fun item =>
        (newLine (level + 1)).toList ++ (item.prettyAt (level + 1)).toList) := by
  have hitems : prettyItems level items = items.map (prettyAt (level + 1)) := by
    induction items with
    | nil => rfl
    | cons item items ih => rw [prettyItems, ih, List.map_cons]
  rw [prettyAt, hitems]
  exact (toList_inLines level '[' ']' _).trans (by rw [List.map_map, List.map_map]; rfl)

theorem toList_prettyAt_object (level : Nat) (fields : List (String × Json)) :
    ((object fields).prettyAt level).toList =
      '\x7b' :: closed (newLine level).toList '\x7d' (fields.map fun field =>
        (newLine (level + 1)).toList ++ ((printString field.1).toList ++
          ':' :: ([' '] ++ (field.2.prettyAt (level + 1)).toList))) := by
  have hfields : prettyFields level fields =
      fields.map fun field => printString field.1 ++ ": " ++ field.2.prettyAt (level + 1) := by
    induction fields with
    | nil => rfl
    | cons field fields ih => rw [prettyFields, ih, List.map_cons]
  rw [prettyAt, hfields]
  refine (toList_inLines level '\x7b' '\x7d' _).trans ?_
  simp [Function.comp_def]

theorem readsAs_prettyAt {value : Json} (h : value.Plain) (level : Nat) :
    ReadsAs (value.prettyAt level).toList value.written := by
  induction h generalizing level with
  | bool => exact readsAs_bool _
  | natural => exact readsAs_natural _
  | string => exact readsAs_string _
  | array _ ih =>
      rw [toList_prettyAt_array, written, writtenAll_eq_map]
      exact readsAs_array (isBlank_newLine level) <| forall₂_map fun item hitem =>
        (ih item hitem (level + 1)).blank_append (isBlank_newLine _)
  | object _ ih =>
      rw [toList_prettyAt_object, written, writtenFields_eq_map]
      exact readsAs_object (isBlank_newLine level) <| forall₂_map fun field hfield =>
        .mk field.1 (isBlank_newLine _) <|
          (ih field hfield (level + 1)).blank_append isBlank_space

/-! ## Whole texts -/

theorem ReadsAs.parse? {text : String} {written : Written} (h : ReadsAs text.toList written) :
    Written.parse? text = some written := by
  have hread := h (2 * text.toList.length + 1) [] (by omega) stops_nil
  rw [List.append_nil] at hread
  simp only [Written.parse?, hread]
  rfl

/-- Both texts of a value are read as the same parts. -/
theorem Plain.parse?_compact {value : Json} (h : value.Plain) :
    Written.parse? value.compact = some value.written :=
  (readsAs_compact h).parse?

theorem Plain.parse?_pretty {value : Json} (h : value.Plain) :
    Written.parse? value.pretty = some value.written :=
  (readsAs_prettyAt h 0).parse?

end ArticleTree.Json
