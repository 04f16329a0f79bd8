import ArticleTree.Proofs.Json.Arrangement
import ArticleTree.Proofs.Json.Ordered

/-! # Reading what was written

A node is written as an object with its kind and its fields, and the kind reads the fields
back, wherever they stand. What a parameter is has no name: parsed content is an array, merged
values are an object and a text is a string, and no reader takes one for another.

Trees in which macros are in order are read back as they were, and the reader gives no others.
-/

namespace ArticleTree

variable {a : Arrangement}

open Json

/-! ## The object of a node -/

theorem Kind.nodup_fieldNames (kind : Kind) : kind.fieldNames.Nodup := by
  cases kind <;> simp [fieldNames]

theorem Kind.type_notMem_fieldNames (kind : Kind) : "type" ∉ kind.fieldNames := by
  cases kind <;> simp [fieldNames]

/-- The kind is found by its name, and reads its own fields, those that are there. -/
theorem Kind.reading_toJson (kind : Kind) (values : List (Option Json))
    (hlength : values.length = kind.fieldNames.length) :
    (a.reading (kind.toJson (Record.present kind.fieldNames values))).node =
      kind.node? (values.map (Option.map a.reading)) := by
  have hothers : ∀ field ∈ Record.present kind.fieldNames (values.map (Option.map a.reading)),
      field.1 ≠ "type" :=
    fun field hmem heq => kind.type_notMem_fieldNames (heq ▸ Record.mem_of_mem_present hmem)
  obtain ⟨given, hperm, hgiven⟩ := a.exists_reading_object
    (("type", .string kind.tag) :: Record.present kind.fieldNames values)
  rw [List.map_cons, Record.map_present] at hperm
  rw [Kind.toJson, hgiven, Reading.ofFields, Reading.nodeOfFields?_perm hperm,
    Reading.nodeOfFields?, List.filter_cons_of_pos (by simp), List.filter_cons_of_neg (by simp),
    List.filter_eq_nil_iff.2 (by simpa using hothers),
    List.filter_eq_self.2 (by simpa using hothers)]
  change (Kind.ofTag? kind.tag).bind _ = _
  rw [Kind.ofTag?_tag]
  change (Record.fromFields? _ _).bind _ = _
  rw [Record.fromFields?_present kind.nodup_fieldNames _ (by simpa using hlength)]
  rfl

/-- The fields of a node as they are written, in the order of their names. -/
def Node.fieldValues : Node → List (Option Json)
  | .text data => [some (.string data)]
  | .element name attrs children =>
      [some (.string name), some attrs.toJson, some (.array (Node.allToJson children))]
  | .template name params =>
      [some (.string name), some (.object (Param.byKeyToJson params))]
  | .block _ children => [some (.array (Node.allToJson children))]
  | .header depth anchor children =>
      [some (.integer depth.toNat), anchor.map .string, some (.array (Node.allToJson children))]
  | .list ordered items => [some (.bool ordered), some (.array (Node.itemsToJson items))]
  | .image name url thumbnail caption =>
      [some (.string name), some (.string url), some (.bool thumbnail),
        some (.array (Node.allToJson caption))]
  | .gallery widths heights children =>
      [some (.integer widths.toNat), some (.integer heights.toNat),
        some (.array (Node.allToJson children))]
  | .galleryItem name caption => [some (.string name), some (.array (Node.allToJson caption))]
  | .equation formula => [some (.string formula)]
  | .inlineMath formula => [some (.string formula)]
  | .error message => [some (.string message)]
  | .notImplemented target => [some target.toJson]

theorem Node.length_fieldValues (node : Node) :
    node.fieldValues.length = node.kind.fieldNames.length := by
  cases node <;> rfl

/-- A node is written as its kind with its fields. -/
theorem Node.toJson_eq (node : Node) : node.toJson =
    node.kind.toJson (Record.present node.kind.fieldNames node.fieldValues) := by
  cases node with
  | header depth anchor children => cases anchor <;> rfl
  | _ => rfl

/-! ## Reading the parts of a node -/

theorem Attributes.reading_toJson (attrs : Attributes) :
    (a.reading attrs.toJson).attributes = some attrs := by
  have hwritten : attrs.toJson =
      .object (attrs.entries.map fun entry => (entry.1, .string entry.2)) := rfl
  obtain ⟨given, hperm, hgiven⟩ := a.exists_reading_object
    (attrs.entries.map fun entry => (entry.1, .string entry.2))
  rw [hwritten, hgiven]
  refine Reading.attributesOfFields?_perm hperm ?_
  induction attrs.entries with
  | nil => rfl
  | cons entry entries ih =>
      rw [List.map_cons, List.map_cons, List.mapM_cons, ih]
      rfl

theorem optionalText?_anchor (anchor : Option String) :
    Reading.optionalText? (anchor.map (a.reading ∘ .string)) = some anchor := by
  cases anchor <;> rfl

theorem forest_reading {nodes : Forest}
    (h : ((Node.allToJson nodes).map a.reading).mapM Reading.node = some nodes) :
    (a.reading (.array (Node.allToJson nodes))).forest = some nodes := by
  rw [a.reading_array]
  exact h

/-! ## Reading the whole -/

mutual

theorem Node.reading_toJson (node : Node) (h : node.isOrdered = true) :
    (a.reading node.toJson).node = some node := by
  rw [Node.toJson_eq, Kind.reading_toJson _ _ node.length_fieldValues]
  cases node with
  | element name attrs children =>
      have hchildren := forest_reading (Node.readings_allToJson children h)
      simp [Node.kind, Node.fieldValues, Kind.node?, attrs.reading_toJson, hchildren]
  | template name params =>
      obtain ⟨hascending, hparams⟩ := Bool.and_eq_true_iff.1 h
      obtain ⟨given, hperm, hgiven⟩ := a.exists_reading_object (Param.byKeyToJson params)
      have hread : Reading.paramsOfFields? given = some params :=
        Reading.paramsOfFields?_perm hperm (Param.readings_byKeyToJson params hparams)
          (of_decide_eq_true hascending)
      simp [Node.kind, Node.fieldValues, Kind.node?, hgiven, Reading.ofFields, hread]
  | list ordered items =>
      have hitems : (a.reading (.array (Node.itemsToJson items))).items = some items := by
        rw [a.reading_array]
        exact Node.readings_itemsToJson items h
      simp [Node.kind, Node.fieldValues, Kind.node?, hitems]
  | block _ children | header _ _ children | image _ _ _ children | gallery _ _ children
  | galleryItem _ children =>
      have hchildren := forest_reading (Node.readings_allToJson children h)
      simp [Node.kind, Node.fieldValues, Kind.node?, Reading.forest?, hchildren,
        optionalText?_anchor, Reading.nat?_integer (UInt8.toNat_lt _),
        Reading.nat?_integer (UInt32.toNat_lt _)]
  | notImplemented target =>
      have htarget := Node.reading_toJson target h
      simp [Node.kind, Node.fieldValues, Kind.node?, htarget]
  | text _ | equation _ | inlineMath _ | error _ => rfl

theorem Node.readings_allToJson (nodes : List Node) (h : Node.allOrdered nodes = true) :
    ((Node.allToJson nodes).map a.reading).mapM Reading.node = some nodes := by
  cases nodes with
  | nil => rfl
  | cons node nodes =>
      obtain ⟨hnode, hnodes⟩ := Bool.and_eq_true_iff.1 h
      simp [Node.allToJson, Node.reading_toJson node hnode, Node.readings_allToJson nodes hnodes]

theorem Node.readings_itemsToJson (items : List (List Node)) (h : Node.itemsOrdered items = true) :
    ((Node.itemsToJson items).map a.reading).mapM Reading.forest = some items := by
  cases items with
  | nil => rfl
  | cons item items =>
      obtain ⟨hitem, hitems⟩ := Bool.and_eq_true_iff.1 h
      simp [Node.itemsToJson, forest_reading (Node.readings_allToJson item hitem),
        Node.readings_itemsToJson items hitems]

theorem Param.reading_toJson (value : Param) (h : value.isOrdered = true) :
    (a.reading value.toJson).param = some value := by
  cases value with
  | content nodes =>
      have hnodes := Node.readings_allToJson nodes h
      rw [Param.toJson, a.reading_array, Reading.ofItems, hnodes]
      rfl
  | list items =>
      have hitems : (a.reading (.array (Param.allToJson items))).params = some items := by
        rw [a.reading_array]
        exact Param.readings_allToJson items h
      obtain ⟨given, hperm, hgiven⟩ :=
        a.exists_reading_object [("list", .array (Param.allToJson items))]
      rw [Param.toJson, hgiven, Reading.ofFields, Reading.mergedOfFields?_perm hperm]
      exact congrArg (Option.map Param.list) hitems
  | text data => rfl

theorem Param.readings_allToJson (items : List Param) (h : Param.allOrdered items = true) :
    ((Param.allToJson items).map a.reading).mapM Reading.param = some items := by
  cases items with
  | nil => rfl
  | cons item items =>
      obtain ⟨hitem, hitems⟩ := Bool.and_eq_true_iff.1 h
      simp [Param.allToJson, Param.reading_toJson item hitem, Param.readings_allToJson items hitems]

theorem Param.readings_byKeyToJson (params : List (String × Param))
    (h : Param.orderedByKey params = true) :
    ((Param.byKeyToJson params).map fun field => (field.1, a.reading field.2)).mapM
      (fun (key, r) => do return (key, ← r.param)) = some params := by
  cases params with
  | nil => rfl
  | cons entry params =>
      obtain ⟨hvalue, hparams⟩ := Bool.and_eq_true_iff.1 h
      have hentry : (a.reading entry.2.toJson).param = some entry.2 :=
        Param.reading_toJson entry.2 hvalue
      rw [Param.byKeyToJson, List.map_cons, List.mapM_cons,
        Param.readings_byKeyToJson params hparams]
      simp only [hentry]
      rfl

end

/-! ## Values that are read as they were written -/

/-- What is written of a valid value is read as the value, and as no other, however the fields of
    objects are arranged. Only valid values are ever read. -/
structure ReadsBack {α : Type} (write : α → Json) (read? : Json → Option α) (valid : α → Bool) :
    Prop where
  read_write : ∀ value, valid value = true → ∀ a : Arrangement,
    read? ((write value).arranged a) = some value
  injective : ∀ value other, valid value = true → valid other = true → ∀ a b : Arrangement,
    (write value).arranged a = (write other).arranged b → value = other
  valid_of_read : ∀ written value, read? written = some value → valid value = true

namespace ReadsBack

variable {α : Type} {write : α → Json} {read? : Json → Option α} {valid : α → Bool}

theorem of_read_write
    (hread : ∀ value, valid value = true → ∀ a : Arrangement,
      read? ((write value).arranged a) = some value)
    (hvalid : ∀ written value, read? written = some value → valid value = true) :
    ReadsBack write read? valid where
  read_write := hread
  injective value other hvalue hother a b heq := by
    have h := hread value hvalue a
    rw [heq, hread other hother b] at h
    exact (Option.some.inj h).symm
  valid_of_read := hvalid

end ReadsBack

theorem Node.kindIsNamed_toJson (node : Node) : (node.toJson.arranged a).kindIsNamed = true := by
  rw [Node.toJson_eq, Kind.toJson, arranged, kindIsNamed, List.all_eq_true]
  rintro ⟨name, value⟩ hmem
  rw [(a.perm _).mem_iff, arrangedFields, arrangedFields_eq_map, Record.map_present] at hmem
  rcases List.mem_cons.1 hmem with heq | hmem
  · cases heq
    rfl
  · have hname : name ≠ "type" := fun heq =>
      node.kind.type_notMem_fieldNames (heq ▸ Record.mem_of_mem_present hmem)
    simp [hname]

theorem Node.ofJson?_toJson (node : Node) (h : node.isOrdered = true) (a : Arrangement) :
    Node.ofJson? (node.toJson.arranged a) = some node := by
  rw [Node.ofJson?, if_pos node.kindIsNamed_toJson]
  exact Node.reading_toJson node h

theorem Forest.ofJson?_toJson (nodes : Forest) (h : Node.allOrdered nodes = true)
    (a : Arrangement) : Forest.ofJson? ((Forest.toJson nodes).arranged a) = some nodes := by
  change (arrangedAll a (Node.allToJson nodes)).mapM Node.ofJson? = some nodes
  induction nodes with
  | nil => rfl
  | cons node nodes ih =>
      obtain ⟨hnode, hnodes⟩ := Bool.and_eq_true_iff.1 h
      simp [Node.allToJson, arrangedAll, Node.ofJson?_toJson node hnode, ih hnodes]

theorem Param.ofJson?_toJson (value : Param) (h : value.isOrdered = true) (a : Arrangement) :
    Param.ofJson? (value.toJson.arranged a) = some value :=
  Param.reading_toJson value h

theorem Article.ofJson?_toJson (article : Article) (h : article.isOrdered = true)
    (a : Arrangement) : Article.ofJson? (article.toJson.arranged a) = some article := by
  have hnames : ["title", "content"].Nodup := by decide
  have hrecord : (article.toJson.arranged a).record? ["title", "content"] =
      some [some (.string article.title), some ((Forest.toJson article.content).arranged a)] := by
    change Record.fromFields? _ _ = _
    rw [Record.fromFields?_perm (a.perm _)]
    exact Record.fromFields?_present hnames
      [some (.string article.title), some ((Forest.toJson article.content).arranged a)] rfl
  rw [Article.ofJson?, hrecord]
  change (Forest.ofJson? _).bind _ = _
  rw [Forest.ofJson?_toJson article.content h]
  rfl

/-- Trees are read as they were written, nodes as well as sequences of them, parameters and
    articles, and trees that differ are written differently. So are texts, parsed content and
    merged values, whatever they hold. -/
theorem readsBack_toJson :
    (ReadsBack Node.toJson Node.ofJson? Node.isOrdered ∧
      ReadsBack Forest.toJson Forest.ofJson? Node.allOrdered ∧
      ReadsBack Param.toJson Param.ofJson? Param.isOrdered ∧
      ReadsBack Article.toJson Article.ofJson? Article.isOrdered) ∧
    ∀ (data : String) (nodes : Forest) (items : List Param) (a b c : Arrangement),
      [(Param.text data).toJson.arranged a, (Param.content nodes).toJson.arranged b,
        (Param.list items).toJson.arranged c].Nodup := by
  refine ⟨⟨?_, ?_, ?_, ?_⟩, ?_⟩
  · exact .of_read_write Node.ofJson?_toJson fun _ _ => Node.isOrdered_of_ofJson?
  · exact .of_read_write Forest.ofJson?_toJson fun _ _ => Forest.isOrdered_of_ofJson?
  · exact .of_read_write Param.ofJson?_toJson fun _ _ => Param.isOrdered_of_ofJson?
  · exact .of_read_write Article.ofJson?_toJson fun _ _ => Article.isOrdered_of_ofJson?
  · intro data nodes items a b c
    simp [Param.toJson, arranged]

/-- A macro with all that an empty parameter can be, merged and then nested. -/
def emptyParams : Node :=
  .template "m" [("1", .content []), ("2", .list [.text "", .list [], .list [.content []]]),
    ("3", .content [.header 255 none [], .notImplemented (.template "n" [("", .text "")])])]

theorem readsBack_toJson_emptyParams :
    Node.ofJson? (emptyParams.toJson.arranged .byName) = some emptyParams :=
  readsBack_toJson.1.1.read_write emptyParams (by decide +kernel) .byName

end ArticleTree
