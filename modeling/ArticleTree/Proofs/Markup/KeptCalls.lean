import ArticleTree.Markup.Transclusion
import ArticleTree.Proofs.Keyed
import ArticleTree.Proofs.Text.ByteOrder

/-! # The calls kept beside expansions

What is kept is JSON, in which a pointer leads to the template of the first part. Which values are
calls is said without the reader, by a relation for each of its functions. A call has one reading,
since its parameters stand in the order of their keys.
-/

namespace ArticleTree

namespace Json

/-- The value that one token of a pointer leads to. Items are counted from zero, by numbers without
    leading zeros. -/
def step? (token : String) : Json → Option Json
  | .object fields => (Json.object fields).field? token
  | .array items =>
      if token.toList.head? = some '0' ∧ token ≠ "0" then none
      else (Text.number? 10 token.toList).bind fun i => items[i]?
  | _ => none

/-- The value that a pointer leads to. -/
def at? (tokens : List String) (value : Json) : Option Json :=
  tokens.foldlM (fun value token => value.step? token) value

end Json

namespace Markup

/-! ## What is kept beside an expansion -/

/-- The value stands for a text of markup. -/
inductive IsWikitext : Json → String → Prop where
  | object {fields : List (String × Json)} {text : String} :
      (Json.object fields).field? "wt" = some (.string text) → IsWikitext (.object fields) text
  | array {text : String} : IsWikitext (.array [.string text]) text

/-- The fields stand for parameters with these texts, which are in the order of the bytes of their
    keys. -/
structure AreTexts (fields : List (String × Json)) (params : List (String × String)) : Prop where
  ascending : params.Pairwise fun a b => Text.bytes a.1 < Text.bytes b.1
  mem_iff : ∀ key text, (key, text) ∈ params ↔
    ∃ value, (Json.object fields).field? key = some value ∧ IsWikitext value text
  isWikitext : ∀ key value, (Json.object fields).field? key = some value →
    ∃ text, IsWikitext value text

/-- The parameters of a call, which may be missing. -/
inductive AreParams : Option Json → List (String × String) → Prop where
  | missing : AreParams none []
  | object {fields : List (String × Json)} {params : List (String × String)} :
      AreTexts fields params → AreParams (some (.object fields)) params

/-- The value stands for a call. -/
inductive IsCall : Json → MacroCall → Prop where
  | object {fields : List (String × Json)} {target : Json} {call : MacroCall} :
      (Json.object fields).field? "target" = some target → IsWikitext target call.target →
      AreParams ((Json.object fields).field? "params") call.params → IsCall (.object fields) call
  | array {target : Json} {params : Option Json} {call : MacroCall} :
      IsWikitext target call.target → AreParams params call.params →
      IsCall (.array (target :: params.toList)) call

/-- What is kept is JSON with the call as the template of its first part. -/
def Keeps (kept : Option String) (call : MacroCall) : Prop :=
  ∃ text value template, kept = some text ∧ Json.parse? text = some value ∧
    value.at? ["parts", "0", "template"] = some template ∧ IsCall template call

/-! ## How it is read -/

theorem firstTemplate?_eq (value : Json) :
    firstTemplate? value = value.at? ["parts", "0", "template"] := by
  have hfield (name : String) (hname : Text.number? 10 name.toList = none) (value : Json) :
      value.step? name = value.field? name := by
    cases value with
    | array items =>
        rw [Json.step?, hname]
        exact ite_self _
    | _ => rfl
  simp only [firstTemplate?, Json.at?, List.foldlM_cons, List.foldlM_nil, bind_pure,
    hfield "parts" rfl, hfield "template" rfl]
  refine bind_congr fun parts => ?_
  cases parts with
  | array items => exact congrArg (· >>= Json.field? "template") List.head?_eq_getElem?
  | _ => rfl

theorem fromFields?_of_ascending {α : Type} {fields : List (String × α)}
    (h : Keyed.Ascending fields) (names : List String) :
    Record.fromFields? names fields = some (names.map fun name => Keyed.get? name fields) := by
  unfold Record.fromFields?
  induction names with
  | nil => rfl
  | cons name names ih =>
      rw [List.mapM_cons, ih, h.filter_eq, List.map_cons]
      cases Keyed.get? name fields <;> rfl

/-- Where of fields of one name the last counts, no name is given twice. -/
theorem lastRecord?_object (names : List String) (fields : List (String × Json)) :
    lastRecord? names (.object fields) =
      some (names.map fun name => (Json.object fields).field? name) := by
  rw [lastRecord?, lastFields, fromFields?_of_ascending (Keyed.ascending_ofList fields)]
  simp only [Keyed.get?_ofList, Json.field?]

theorem string?_eq_some {value : Json} {text : String} :
    value.string? = some text ↔ value = .string text := by
  cases value <;> simp [Json.string?]

theorem wikitext?_eq_some {value : Json} {text : String} :
    wikitext? value = some text ↔ IsWikitext value text := by
  constructor
  · intro h
    cases value with
    | object fields =>
        simp only [wikitext?, lastRecord?_object, List.map_cons, List.map_nil] at h
        cases hfield : (Json.object fields).field? "wt" with
        | none => simp [hfield] at h
        | some found =>
            simp only [hfield] at h
            obtain rfl := string?_eq_some.1 h
            exact .object hfield
    | array items =>
        match items with
        | [] => cases h
        | [item] =>
            obtain rfl := string?_eq_some.1 h
            exact .array
        | _ :: _ :: items => simp [wikitext?, lastRecord?, Record.fromItems?] at h
    | _ => cases h
  · intro h
    cases h with
    | object hfield => simp [wikitext?, lastRecord?_object, hfield, Json.string?]
    | array => rfl

theorem IsWikitext.unique {value : Json} {text text' : String} (h : IsWikitext value text)
    (h' : IsWikitext value text') : text = text' :=
  Option.some.inj ((wikitext?_eq_some.2 h).symm.trans (wikitext?_eq_some.2 h'))

section

variable {entries fields : List (String × Json)} {params : List (String × String)}

/-- The texts of values by key, if all values stand for texts. -/
def keyedTexts? (entries : List (String × Json)) : Option (List (String × String)) :=
  entries.mapM fun (key, value) => do return (key, ← wikitext? value)

theorem keyedTexts?_cons {key : String} {value : Json} :
    keyedTexts? ((key, value) :: entries) = some params ↔
      ∃ text rest, IsWikitext value text ∧ keyedTexts? entries = some rest ∧
        params = (key, text) :: rest := by
  simp only [keyedTexts?, List.mapM_cons, bind, Option.bind_eq_some_iff, pure, Option.some.injEq,
    ← wikitext?_eq_some]
  constructor
  · rintro ⟨_, ⟨text, htext, rfl⟩, rest, hrest, rfl⟩
    exact ⟨text, rest, htext, hrest, rfl⟩
  · rintro ⟨text, rest, htext, hrest, rfl⟩
    exact ⟨_, ⟨text, htext, rfl⟩, rest, hrest, rfl⟩

theorem map_fst_keyedTexts? (h : keyedTexts? entries = some params) :
    params.map Prod.fst = entries.map Prod.fst := by
  induction entries generalizing params with
  | nil =>
      cases h
      rfl
  | cons entry entries ih =>
      obtain ⟨text, rest, -, hrest, rfl⟩ := keyedTexts?_cons.1 h
      rw [List.map_cons, ih hrest, List.map_cons]

theorem mem_keyedTexts? (h : keyedTexts? entries = some params) {key text : String} :
    (key, text) ∈ params ↔ ∃ value, (key, value) ∈ entries ∧ IsWikitext value text := by
  induction entries generalizing params with
  | nil =>
      cases h
      simp
  | cons entry entries ih =>
      obtain ⟨text', rest, htext, hrest, rfl⟩ := keyedTexts?_cons.1 h
      simp only [List.mem_cons, ih hrest]
      constructor
      · rintro (heq | ⟨value, hvalue, htext⟩)
        · cases heq
          exact ⟨entry.2, .inl rfl, htext⟩
        · exact ⟨value, .inr hvalue, htext⟩
      · rintro ⟨value, rfl | hvalue, hvaluetext⟩
        · exact .inl (by rw [htext.unique hvaluetext])
        · exact .inr ⟨value, hvalue, hvaluetext⟩

theorem exists_keyedTexts?_iff :
    (∃ params, keyedTexts? entries = some params) ↔
      ∀ entry ∈ entries, ∃ text, IsWikitext entry.2 text := by
  induction entries with
  | nil => simp [keyedTexts?]
  | cons entry entries ih =>
      rw [List.forall_mem_cons, ← ih]
      constructor
      · rintro ⟨params, hparams⟩
        obtain ⟨text, rest, htext, hrest, -⟩ := keyedTexts?_cons.1 hparams
        exact ⟨⟨text, htext⟩, rest, hrest⟩
      · rintro ⟨⟨text, htext⟩, rest, hrest⟩
        exact ⟨_, keyedTexts?_cons.2 ⟨text, rest, htext, hrest, rfl⟩⟩

theorem mem_lastFields {key : String} {value : Json} :
    (key, value) ∈ lastFields fields ↔ (Json.object fields).field? key = some value := by
  rw [lastFields, ← (Keyed.ascending_ofList fields).get?_eq_some, Keyed.get?_ofList, Json.field?]

theorem areTexts_of_keyedTexts? (h : keyedTexts? (lastFields fields) = some params) :
    AreTexts fields params where
  ascending := by
    simp only [Text.bytes_lt_iff]
    rw [← List.pairwise_map, map_fst_keyedTexts? h, List.pairwise_map]
    exact Keyed.ascending_ofList fields
  mem_iff key text := by simp only [mem_keyedTexts? h, mem_lastFields]
  isWikitext key value hfield :=
    exists_keyedTexts?_iff.1 ⟨params, h⟩ (key, value) (mem_lastFields.2 hfield)

theorem AreTexts.unique {params' : List (String × String)} (h : AreTexts fields params)
    (h' : AreTexts fields params') : params = params' := by
  have hascending := h.ascending
  have hascending' := h'.ascending
  simp only [Text.bytes_lt_iff] at hascending hascending'
  refine Keyed.Ascending.eq_of_subset hascending hascending' ?_ ?_
  · rintro ⟨key, text⟩ hmem
    exact (h'.mem_iff key text).2 ((h.mem_iff key text).1 hmem)
  · rintro ⟨key, text⟩ hmem
    exact (h.mem_iff key text).2 ((h'.mem_iff key text).1 hmem)

theorem paramTexts?_eq_some {fields : List (String × Json)} :
    paramTexts? (.object fields) = some params ↔ AreTexts fields params := by
  constructor
  · exact areTexts_of_keyedTexts?
  · intro h
    have hall : ∀ entry ∈ lastFields fields, ∃ text, IsWikitext entry.2 text :=
      fun entry hentry => h.isWikitext entry.1 entry.2 (mem_lastFields.1 hentry)
    obtain ⟨params', hparams⟩ := exists_keyedTexts?_iff.2 hall
    rw [h.unique (areTexts_of_keyedTexts? hparams)]
    exact hparams

end

/-! ## Calls -/

theorem areParams_iff {given : Option Json} {params : List (String × String)} :
    AreParams given params ↔ given.elim (some []) paramTexts? = some params := by
  constructor
  · intro h
    cases h with
    | missing => rfl
    | object htexts => exact paramTexts?_eq_some.2 htexts
  · intro h
    cases given with
    | none =>
        cases h
        exact .missing
    | some value =>
        cases value with
        | object fields => exact .object (paramTexts?_eq_some.1 h)
        | _ => cases h

variable {template : Json} {call : MacroCall}

theorem macroCall?_of_record {target : Json} {given : Option Json}
    (h : lastRecord? ["target", "params"] template = some [some target, given]) :
    macroCall? template = some call ↔
      IsWikitext target call.target ∧ AreParams given call.params := by
  rw [areParams_iff, ← wikitext?_eq_some]
  obtain ⟨text, params⟩ := call
  cases given with
  | none => simp [macroCall?, h, Option.bind_eq_some_iff, and_comm]
  | some given => simp [macroCall?, h, Option.bind_eq_some_iff]

theorem exists_record_of_macroCall? (h : macroCall? template = some call) :
    ∃ target given, lastRecord? ["target", "params"] template = some [some target, given] := by
  obtain ⟨record, hrecord, h⟩ := Option.bind_eq_some_iff.1 h
  split at h
  · exact ⟨_, _, hrecord⟩
  · exact ⟨_, _, hrecord⟩
  · cases h

theorem macroCall?_eq_some : macroCall? template = some call ↔ IsCall template call := by
  constructor
  · intro h
    obtain ⟨target, given, hrecord⟩ := exists_record_of_macroCall? h
    obtain ⟨htarget, hparams⟩ := (macroCall?_of_record hrecord).1 h
    cases template with
    | object fields =>
        rw [lastRecord?_object] at hrecord
        obtain ⟨hfirst, hsecond⟩ : _ ∧ _ := by simpa using hrecord
        exact .object hfirst htarget (hsecond ▸ hparams)
    | array items =>
        match items, hrecord with
        | [first], hrecord =>
            cases hrecord
            exact .array htarget hparams
        | [first, second], hrecord =>
            cases hrecord
            exact .array htarget hparams
        | first :: second :: third :: items, hrecord =>
            simp [lastRecord?, Record.fromItems?] at hrecord
    | _ => cases hrecord
  · intro h
    cases h with
    | object hfield htarget hparams =>
        refine (macroCall?_of_record ?_).2 ⟨htarget, hparams⟩
        rw [lastRecord?_object, List.map_cons, hfield]
        rfl
    | @array target params _ htarget hparams =>
        refine (macroCall?_of_record ?_).2 ⟨htarget, hparams⟩
        cases params <;> rfl

/-- What is kept is read as the call that it stands for. -/
theorem readCall_eq_ok {kept : Option String} : readCall kept = .ok call ↔ Keeps kept call := by
  constructor
  · intro h
    unfold readCall at h
    split at h
    · cases h
    · rename_i text
      split at h
      · cases h
      · rename_i value hvalue
        split at h
        · cases h
        · rename_i template htemplate
          split at h
          · cases h
          · rename_i found hcall
            cases h
            rw [firstTemplate?_eq] at htemplate
            exact ⟨text, value, template, rfl, hvalue, htemplate, macroCall?_eq_some.1 hcall⟩
  · rintro ⟨text, value, template, rfl, hvalue, htemplate, hcall⟩
    rw [← firstTemplate?_eq] at htemplate
    simp only [readCall, hvalue, htemplate, macroCall?_eq_some.2 hcall]

end Markup

end ArticleTree
