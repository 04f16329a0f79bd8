import ArticleTree.Proofs.Json.Parts
import ArticleTree.Proofs.Node.Ordered

/-! # Trees that are read are in order

The reader sorts the parameters of a macro by name, so in every tree that comes out of it the
macros are in order. All readings of a value are looked at together, since each of them is
made of several readings of its parts.
-/

namespace ArticleTree

/-- Whatever the value is read as, it is in order. -/
structure Reading.Ordered (r : Reading) : Prop where
  node : ∀ node, r.node = some node → node.isOrdered = true
  forest : ∀ nodes, r.forest = some nodes → Node.allOrdered nodes = true
  items : ∀ items, r.items = some items → Node.itemsOrdered items = true
  param : ∀ value, r.param = some value → value.isOrdered = true
  params : ∀ items, r.params = some items → Param.allOrdered items = true
  paramsByKey : ∀ params, r.paramsByKey = some params →
    Keyed.Ascending params ∧ Param.orderedByKey params = true

variable {parts : List Reading}

/-- A node is in order if its parts are. -/
theorem Node.isOrdered_of_partsFrom {node : Node} (h : node.PartsFrom parts)
    (hparts : ∀ part ∈ parts, part.Ordered) : node.isOrdered = true := by
  cases node with
  | text _ | equation _ | inlineMath _ | error _ => rfl
  | element name attrs children =>
      rcases h with rfl | ⟨part, hpart, hchildren⟩
      · rfl
      · exact (hparts part hpart).forest children hchildren
  | template name params =>
      rcases h with rfl | ⟨part, hpart, hparams⟩
      · rfl
      · obtain ⟨hascending, hordered⟩ := (hparts part hpart).paramsByKey params hparams
        exact Bool.and_eq_true_iff.2 ⟨decide_eq_true hascending, hordered⟩
  | block _ children | header _ _ children | image _ _ _ children | gallery _ _ children
  | galleryItem _ children =>
      obtain ⟨part, hpart, hchildren⟩ := h
      exact (hparts part hpart).forest children hchildren
  | list ordered items =>
      obtain ⟨part, hpart, hitems⟩ := h
      exact (hparts part hpart).items items hitems
  | notImplemented target =>
      obtain ⟨part, hpart, htarget⟩ := h
      exact (hparts part hpart).node target htarget

theorem Param.isOrdered_of_partsFrom {value : Param} (h : value.PartsFrom parts)
    (hparts : ∀ part ∈ parts, part.Ordered) : value.isOrdered = true := by
  cases value with
  | content nodes =>
      refine Node.allOrdered_iff.2 fun node hmem => ?_
      obtain ⟨part, hpart, hnode⟩ := h node hmem
      exact (hparts part hpart).node node hnode
  | list items =>
      obtain ⟨part, hpart, hitems⟩ := h
      exact (hparts part hpart).params items hitems
  | text data => rfl

theorem Reading.From.ordered {r : Reading} (h : r.From parts)
    (hparts : ∀ part ∈ parts, part.Ordered) : r.Ordered where
  node node hnode := Node.isOrdered_of_partsFrom (h.node node hnode) hparts
  forest nodes hnodes := by
    refine Node.allOrdered_iff.2 fun node hmem => ?_
    obtain ⟨part, hpart, hnode⟩ := h.forest nodes hnodes node hmem
    exact (hparts part hpart).node node hnode
  items items hitems := by
    refine Node.itemsOrdered_iff.2 fun nodes hmem => ?_
    obtain ⟨part, hpart, hnodes⟩ := h.items items hitems nodes hmem
    exact (hparts part hpart).forest nodes hnodes
  param value hvalue := Param.isOrdered_of_partsFrom (h.param value hvalue) hparts
  params items hitems := by
    refine Param.allOrdered_iff.2 fun value hmem => ?_
    obtain ⟨part, hpart, hvalue⟩ := h.params items hitems value hmem
    exact (hparts part hpart).param value hvalue
  paramsByKey params hparams := by
    obtain ⟨hascending, hfrom⟩ := h.paramsByKey params hparams
    refine ⟨hascending, Param.orderedByKey_iff.2 fun entry hmem => ?_⟩
    obtain ⟨part, hpart, hvalue⟩ := hfrom entry hmem
    exact (hparts part hpart).param entry.2 hvalue

namespace Json

mutual

theorem ordered_reading (value : Json) : value.reading.Ordered := by
  cases value with
  | array items => exact (Reading.from_ofItems _ _).ordered (ordered_readings items)
  | object fields =>
      exact (Reading.from_ofFields _ _).ordered
        (List.forall_mem_map.2 (ordered_fieldReadings fields))
  | _ => exact (Reading.from_ofScalar _ []).ordered (by simp)

theorem ordered_readings (items : List Json) : ∀ r ∈ readings items, r.Ordered := by
  cases items with
  | nil => simp [readings]
  | cons item items =>
      exact List.forall_mem_cons.2 ⟨ordered_reading item, ordered_readings items⟩

theorem ordered_fieldReadings (fields : List (String × Json)) :
    ∀ field ∈ fieldReadings fields, field.2.Ordered := by
  cases fields with
  | nil => simp [fieldReadings]
  | cons field fields =>
      exact List.forall_mem_cons.2 ⟨ordered_reading field.2, ordered_fieldReadings fields⟩

end

end Json

theorem Node.isOrdered_of_ofJson? {value : Json} {node : Node}
    (h : Node.ofJson? value = some node) : node.isOrdered = true := by
  unfold Node.ofJson? at h
  split at h
  · exact value.ordered_reading.node node h
  · cases h

theorem Forest.isOrdered_of_ofJson? {value : Json} {nodes : Forest}
    (h : Forest.ofJson? value = some nodes) : Node.allOrdered nodes = true := by
  unfold Forest.ofJson? at h
  split at h
  · refine Node.allOrdered_iff.2 fun node hmem => ?_
    obtain ⟨item, -, hnode⟩ := exists_mem_of_mapM h node hmem
    exact Node.isOrdered_of_ofJson? hnode
  · cases h

theorem Param.isOrdered_of_ofJson? {value : Json} {param : Param}
    (h : Param.ofJson? value = some param) : param.isOrdered = true :=
  value.ordered_reading.param param h

theorem Article.isOrdered_of_ofJson? {value : Json} {article : Article}
    (h : Article.ofJson? value = some article) : article.isOrdered = true := by
  simp only [Article.ofJson?, bind, Option.bind_eq_some_iff] at h
  obtain ⟨fields, -, h⟩ := h
  split at h
  · obtain ⟨title, -, h⟩ := Option.bind_eq_some_iff.1 h
    obtain ⟨content, hcontent, h⟩ := Option.bind_eq_some_iff.1 h
    cases h
    exact Forest.isOrdered_of_ofJson? hcontent
  · cases h

end ArticleTree
