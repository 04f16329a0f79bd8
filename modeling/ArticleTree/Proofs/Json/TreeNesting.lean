import ArticleTree.Proofs.Json.Nesting
import ArticleTree.Proofs.Json.RoundTrip

/-! # How deeply trees are nested

A tree may be read from less than is written for it: attributes that are missing are written as
an empty object, and children or parameters that are missing as an empty array or object. All
that is added this way stands right in the object of a node, so what is written is nested at most
one level deeper than what was read.
-/

namespace ArticleTree

open Json

/-! ## What is written -/

theorem Record.mem_values_of_mem_present {α : Type} {names : List String}
    {values : List (Option α)} {field : String × α} (h : field ∈ present names values) :
    some field.2 ∈ values := by
  obtain ⟨⟨name, value⟩, hmem, hvalue⟩ := List.mem_filterMap.1 h
  obtain ⟨value, rfl, rfl⟩ := Option.map_eq_some_iff.1 hvalue
  exact (List.of_mem_zip hmem).2

/-- A node is written as an object of its kind and its fields. -/
theorem Node.exists_toJson (node : Node) : ∃ fields,
    node.toJson = .object (("type", .string node.kind.tag) :: fields) ∧
      ∀ field ∈ fields, some field.2 ∈ node.fieldValues :=
  ⟨_, node.toJson_eq, fun _ => Record.mem_values_of_mem_present⟩

theorem Node.plain_of_fieldValues {node : Node}
    (h : ∀ value, some value ∈ node.fieldValues → value.Plain) : node.toJson.Plain := by
  obtain ⟨fields, hfields, hmem⟩ := node.exists_toJson
  rw [hfields]
  exact .object (List.forall_mem_cons.2 ⟨.string, fun field hfield => h _ (hmem field hfield)⟩)

theorem Attributes.plain_toJson (attrs : Attributes) : attrs.toJson.Plain :=
  plain_ofStrings attrs.entries

mutual

theorem Node.plain_toJson (node : Node) : node.toJson.Plain := by
  refine Node.plain_of_fieldValues ?_
  cases node with
  | text _ | equation _ | inlineMath _ | error _ => simp [Node.fieldValues, Plain.string]
  | element name attrs children =>
      have hchildren := Plain.array (Node.plain_allToJson children)
      simp [Node.fieldValues, Plain.string, attrs.plain_toJson, hchildren]
  | template name params =>
      have hparams := Plain.object (Param.plain_byKeyToJson params)
      simp [Node.fieldValues, Plain.string, hparams]
  | list ordered items =>
      have hitems := Plain.array (Node.plain_itemsToJson items)
      simp [Node.fieldValues, Plain.bool, hitems]
  | header depth anchor children =>
      have hdepth := Plain.natural (depth.toNat_lt.trans (by decide))
      have hchildren := Plain.array (Node.plain_allToJson children)
      cases anchor <;> simp [Node.fieldValues, Plain.string, hdepth, hchildren]
  | gallery widths heights children =>
      have hwidths := Plain.natural (widths.toNat_lt.trans (by decide))
      have hheights := Plain.natural (heights.toNat_lt.trans (by decide))
      have hchildren := Plain.array (Node.plain_allToJson children)
      simp [Node.fieldValues, hwidths, hheights, hchildren]
  | block _ children | image _ _ _ children | galleryItem _ children =>
      have hchildren := Plain.array (Node.plain_allToJson children)
      simp [Node.fieldValues, Plain.string, Plain.bool, hchildren]
  | notImplemented target => simpa [Node.fieldValues] using Node.plain_toJson target

theorem Node.plain_allToJson (nodes : List Node) :
    ∀ value ∈ Node.allToJson nodes, value.Plain := by
  cases nodes with
  | nil => simp [Node.allToJson]
  | cons node nodes =>
      exact List.forall_mem_cons.2 ⟨Node.plain_toJson node, Node.plain_allToJson nodes⟩

theorem Node.plain_itemsToJson (items : List (List Node)) :
    ∀ value ∈ Node.itemsToJson items, value.Plain := by
  cases items with
  | nil => simp [Node.itemsToJson]
  | cons item items =>
      exact List.forall_mem_cons.2
        ⟨.array (Node.plain_allToJson item), Node.plain_itemsToJson items⟩

theorem Param.plain_toJson (value : Param) : value.toJson.Plain := by
  cases value with
  | content nodes => exact .array (Node.plain_allToJson nodes)
  | list items =>
      exact .object (List.forall_mem_singleton.2 (.array (Param.plain_allToJson items)))
  | text data => exact .string

theorem Param.plain_allToJson (items : List Param) :
    ∀ value ∈ Param.allToJson items, value.Plain := by
  cases items with
  | nil => simp [Param.allToJson]
  | cons item items =>
      exact List.forall_mem_cons.2 ⟨Param.plain_toJson item, Param.plain_allToJson items⟩

theorem Param.plain_byKeyToJson (params : List (String × Param)) :
    ∀ field ∈ Param.byKeyToJson params, field.2.Plain := by
  cases params with
  | nil => simp [Param.byKeyToJson]
  | cons entry params =>
      exact List.forall_mem_cons.2
        ⟨Param.plain_toJson entry.2, Param.plain_byKeyToJson params⟩

end

theorem Forest.plain_toJson (nodes : Forest) : (Forest.toJson nodes).Plain :=
  .array (Node.plain_allToJson nodes)

theorem Article.plain_toJson (article : Article) : article.toJson.Plain :=
  .object (by simpa using ⟨Plain.string, Forest.plain_toJson article.content⟩)

/-! ## How deeply it is nested -/

variable {n : Nat}

theorem Node.nesting_toJson_le {node : Node}
    (h : ∀ value, some value ∈ node.fieldValues → value.nesting ≤ n) :
    node.toJson.nesting ≤ n + 1 := by
  obtain ⟨fields, hfields, hmem⟩ := node.exists_toJson
  rw [hfields, nesting_object_le]
  exact List.forall_mem_cons.2 ⟨Nat.zero_le n, fun field hfield => h _ (hmem field hfield)⟩

theorem Attributes.nesting_toJson_le (attrs : Attributes) (n : Nat) :
    attrs.toJson.nesting ≤ n + 1 :=
  nesting_ofStrings_le attrs.entries n

theorem Node.nesting_allToJson_le {nodes : List Node} :
    (array (Node.allToJson nodes)).nesting ≤ n + 1 ↔ ∀ node ∈ nodes, node.toJson.nesting ≤ n := by
  rw [nesting_array_le]
  induction nodes with
  | nil => simp [Node.allToJson]
  | cons node nodes ih => simp [Node.allToJson, ih]

theorem Node.nesting_itemsToJson_le {items : List (List Node)} :
    (array (Node.itemsToJson items)).nesting ≤ n + 1 ↔
      ∀ item ∈ items, (array (Node.allToJson item)).nesting ≤ n := by
  rw [nesting_array_le]
  induction items with
  | nil => simp [Node.itemsToJson]
  | cons item items ih => simp [Node.itemsToJson, ih]

theorem Param.nesting_allToJson_le {items : List Param} :
    (array (Param.allToJson items)).nesting ≤ n + 1 ↔ ∀ item ∈ items, item.toJson.nesting ≤ n := by
  rw [nesting_array_le]
  induction items with
  | nil => simp [Param.allToJson]
  | cons item items ih => simp [Param.allToJson, ih]

theorem Param.nesting_byKeyToJson_le {params : List (String × Param)} :
    (object (Param.byKeyToJson params)).nesting ≤ n + 1 ↔
      ∀ entry ∈ params, entry.2.toJson.nesting ≤ n := by
  rw [nesting_object_le]
  induction params with
  | nil => simp [Param.byKeyToJson]
  | cons entry params ih =>
      rw [Param.byKeyToJson, List.forall_mem_cons, List.forall_mem_cons, ih]

/-- Whatever a value is read as, what is written for it is nested at most one level deeper than
    `n`. -/
structure Reading.Shallow (n : Nat) (r : Reading) : Prop where
  node : ∀ node, r.node = some node → node.toJson.nesting ≤ n + 1
  forest : ∀ nodes, r.forest = some nodes → (array (Node.allToJson nodes)).nesting ≤ n + 1
  items : ∀ items, r.items = some items → (array (Node.itemsToJson items)).nesting ≤ n + 1
  param : ∀ value, r.param = some value → value.toJson.nesting ≤ n + 1
  params : ∀ items, r.params = some items → (array (Param.allToJson items)).nesting ≤ n + 1
  paramsByKey : ∀ params, r.paramsByKey = some params →
    (object (Param.byKeyToJson params)).nesting ≤ n + 1

variable {parts : List Reading}

/-- A node is nested one level deeper than its parts, those that were missing as well. -/
theorem Node.nesting_of_partsFrom {node : Node} (h : node.PartsFrom parts)
    (hparts : ∀ part ∈ parts, part.Shallow n) : node.toJson.nesting ≤ n + 2 := by
  refine Node.nesting_toJson_le ?_
  cases node with
  | text _ | equation _ | inlineMath _ | error _ => simp [Node.fieldValues]
  | element name attrs children =>
      have hchildren : (array (Node.allToJson children)).nesting ≤ n + 1 := by
        rcases h with rfl | ⟨part, hpart, hchildren⟩
        · exact Node.nesting_allToJson_le.2 (by simp)
        · exact (hparts part hpart).forest children hchildren
      simp [Node.fieldValues, attrs.nesting_toJson_le, hchildren]
  | template name params =>
      have hparams : (object (Param.byKeyToJson params)).nesting ≤ n + 1 := by
        rcases h with rfl | ⟨part, hpart, hparams⟩
        · exact Param.nesting_byKeyToJson_le.2 (by simp)
        · exact (hparts part hpart).paramsByKey params hparams
      simp [Node.fieldValues, hparams]
  | header depth anchor children =>
      obtain ⟨part, hpart, hchildren⟩ := h
      have hchildren := (hparts part hpart).forest children hchildren
      cases anchor <;> simp [Node.fieldValues, hchildren]
  | block _ children | image _ _ _ children | gallery _ _ children | galleryItem _ children =>
      obtain ⟨part, hpart, hchildren⟩ := h
      have hchildren := (hparts part hpart).forest children hchildren
      simp [Node.fieldValues, hchildren]
  | list ordered items =>
      obtain ⟨part, hpart, hitems⟩ := h
      have hitems := (hparts part hpart).items items hitems
      simp [Node.fieldValues, hitems]
  | notImplemented target =>
      obtain ⟨part, hpart, htarget⟩ := h
      have htarget := (hparts part hpart).node target htarget
      simp [Node.fieldValues, htarget]

theorem Param.nesting_of_partsFrom {value : Param} (h : value.PartsFrom parts)
    (hparts : ∀ part ∈ parts, part.Shallow n) : value.toJson.nesting ≤ n + 2 := by
  cases value with
  | content nodes =>
      refine Node.nesting_allToJson_le.2 fun node hmem => ?_
      obtain ⟨part, hpart, hnode⟩ := h node hmem
      exact (hparts part hpart).node node hnode
  | list items =>
      obtain ⟨part, hpart, hitems⟩ := h
      exact nesting_object_le.2 <|
        List.forall_mem_singleton.2 ((hparts part hpart).params items hitems)
  | text data => exact Nat.zero_le _

theorem Reading.From.shallow {r : Reading} (h : r.From parts)
    (hparts : ∀ part ∈ parts, part.Shallow n) : r.Shallow (n + 1) where
  node node hnode := Node.nesting_of_partsFrom (h.node node hnode) hparts
  forest nodes hnodes := by
    refine Node.nesting_allToJson_le.2 fun node hmem => ?_
    obtain ⟨part, hpart, hnode⟩ := h.forest nodes hnodes node hmem
    exact (hparts part hpart).node node hnode
  items items hitems := by
    refine Node.nesting_itemsToJson_le.2 fun nodes hmem => ?_
    obtain ⟨part, hpart, hnodes⟩ := h.items items hitems nodes hmem
    exact (hparts part hpart).forest nodes hnodes
  param value hvalue := Param.nesting_of_partsFrom (h.param value hvalue) hparts
  params items hitems := by
    refine Param.nesting_allToJson_le.2 fun value hmem => ?_
    obtain ⟨part, hpart, hvalue⟩ := h.params items hitems value hmem
    exact (hparts part hpart).param value hvalue
  paramsByKey params hparams := by
    refine Param.nesting_byKeyToJson_le.2 fun entry hmem => ?_
    obtain ⟨part, hpart, hvalue⟩ := (h.paramsByKey params hparams).2 entry hmem
    exact (hparts part hpart).param entry.2 hvalue

theorem Reading.shallow_ofScalar (value : Json) (n : Nat) : (ofScalar value).Shallow n where
  node _ h := by cases h
  forest _ h := by cases h
  items _ h := by cases h
  param _ h := by
    obtain ⟨data, -, rfl⟩ := Option.map_eq_some_iff.1 h
    exact Nat.zero_le _
  params _ h := by cases h
  paramsByKey _ h := by cases h

namespace Json

mutual

theorem shallow_reading (value : Json) {n : Nat} (h : value.nesting ≤ n) :
    value.reading.Shallow n := by
  cases value with
  | array items =>
      obtain ⟨n, rfl⟩ := Nat.exists_eq_succ_of_ne_zero (Nat.ne_zero_of_lt h)
      exact (Reading.from_ofItems _ _).shallow (shallow_readings items (nesting_array_le.1 h))
  | object fields =>
      obtain ⟨n, rfl⟩ := Nat.exists_eq_succ_of_ne_zero (Nat.ne_zero_of_lt h)
      exact (Reading.from_ofFields _ _).shallow
        (List.forall_mem_map.2 (shallow_fieldReadings fields (nesting_object_le.1 h)))
  | _ => exact Reading.shallow_ofScalar _ n

theorem shallow_readings (items : List Json) {n : Nat} (h : ∀ item ∈ items, item.nesting ≤ n) :
    ∀ r ∈ readings items, r.Shallow n := by
  cases items with
  | nil => simp [readings]
  | cons item items =>
      obtain ⟨hitem, hitems⟩ := List.forall_mem_cons.1 h
      exact List.forall_mem_cons.2 ⟨shallow_reading item hitem, shallow_readings items hitems⟩

theorem shallow_fieldReadings (fields : List (String × Json)) {n : Nat}
    (h : ∀ field ∈ fields, field.2.nesting ≤ n) :
    ∀ field ∈ fieldReadings fields, field.2.Shallow n := by
  cases fields with
  | nil => simp [fieldReadings]
  | cons field fields =>
      obtain ⟨hfield, hfields⟩ := List.forall_mem_cons.1 h
      exact List.forall_mem_cons.2
        ⟨shallow_reading field.2 hfield, shallow_fieldReadings fields hfields⟩

end

end Json

theorem Node.nesting_of_ofJson? {value : Json} {node : Node}
    (h : Node.ofJson? value = some node) : node.toJson.nesting ≤ value.nesting + 1 := by
  unfold Node.ofJson? at h
  split at h
  · exact (value.shallow_reading (Nat.le_refl _)).node node h
  · cases h

theorem Forest.nesting_of_ofJson? {value : Json} {nodes : Forest}
    (h : Forest.ofJson? value = some nodes) :
    (Forest.toJson nodes).nesting ≤ value.nesting + 1 := by
  unfold Forest.ofJson? at h
  split at h
  · rename_i items
    refine Node.nesting_allToJson_le.2 fun node hmem => ?_
    obtain ⟨item, hitem, hnode⟩ := exists_mem_of_mapM h node hmem
    exact (Node.nesting_of_ofJson? hnode).trans
      (Nat.succ_le_succ (nestingAll_le.1 (Nat.le_refl _) item hitem))
  · cases h

theorem Param.nesting_of_ofJson? {value : Json} {param : Param}
    (h : Param.ofJson? value = some param) : param.toJson.nesting ≤ value.nesting + 1 :=
  (value.shallow_reading (Nat.le_refl _)).param param h

end ArticleTree
