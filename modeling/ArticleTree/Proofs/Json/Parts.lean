import ArticleTree.Json.Tree
import ArticleTree.Proofs.Keyed

/-! # What trees are read from

Whatever a value is read as is put together from what its parts are read as; only what is missing
is filled in, and it is empty. So what is to hold of all trees that are read is shown for trees
that are put together, and follows for values by going through their parts.
-/

namespace ArticleTree

/-- What is read one by one comes from something that is read. -/
theorem exists_mem_of_mapM {α β : Type} {f : α → Option β} {l : List α} {out : List β}
    (h : l.mapM f = some out) : ∀ b ∈ out, ∃ a ∈ l, f a = some b := by
  induction l generalizing out with
  | nil =>
      cases h
      simp
  | cons a l ih =>
      simp only [List.mapM_cons, bind, Option.bind_eq_some_iff, pure, Option.some.injEq] at h
      obtain ⟨b, hb, bs, hbs, rfl⟩ := h
      intro c hc
      rcases List.mem_cons.1 hc with rfl | hc
      · exact ⟨a, List.mem_cons_self, hb⟩
      · obtain ⟨a', ha', hfa'⟩ := ih hbs c hc
        exact ⟨a', List.mem_cons_of_mem _ ha', hfa'⟩

/-! ## Records -/

namespace Record

variable {α : Type} {names : List String} {out : List (Option α)}

theorem mem_of_fromFields? {fields : List (String × α)} (h : fromFields? names fields = some out)
    {value : α} (hmem : some value ∈ out) : ∃ name, (name, value) ∈ fields := by
  obtain ⟨name, -, hname⟩ := exists_mem_of_mapM h _ hmem
  split at hname
  · cases hname
  · rename_i field hfilter
    cases hname
    have : field ∈ fields.filter fun field => field.1 = name := by simp [hfilter]
    exact ⟨field.1, List.mem_of_mem_filter this⟩
  · cases hname

theorem mem_of_fromItems? {items : List α} (h : fromItems? names items = some out) {value : α}
    (hmem : some value ∈ out) : value ∈ items := by
  unfold fromItems? at h
  split at h
  · cases h
    simpa using hmem
  · cases h

end Record

/-- A field of a record is a part of what is written. -/
theorem Json.Written.part_of_record? {written : Written} {names : List String}
    {fields : List (Option Written)} (h : written.record? names = some fields) {found : Written}
    (hfound : some found ∈ fields) :
    (∃ items, written = .array items ∧ found ∈ items) ∨
      ∃ fields name, written = .object fields ∧ (name, found) ∈ fields := by
  cases written with
  | array items => exact .inl ⟨items, rfl, Record.mem_of_fromItems? h hfound⟩
  | object fields =>
      obtain ⟨given, hgiven, hrecord⟩ := Option.bind_eq_some_iff.1 h
      obtain ⟨name, hname⟩ := Record.mem_of_fromFields? hrecord hfound
      obtain ⟨field, hfield, hread⟩ := exists_mem_of_mapM hgiven _ hname
      obtain ⟨_, -, heq⟩ := Option.bind_eq_some_iff.1 hread
      cases heq
      exact .inr ⟨fields, field.1, rfl, hfield⟩
  | _ => cases h

/-! ## Nodes and parameters -/

/-- What the node has is read from one of the parts, or it is missing and so empty. -/
def Node.PartsFrom (parts : List Reading) : Node → Prop
  | .element _ _ children => children = [] ∨ ∃ part ∈ parts, part.forest = some children
  | .template _ params => params = [] ∨ ∃ part ∈ parts, part.paramsByKey = some params
  | .block _ children | .header _ _ children | .image _ _ _ children | .gallery _ _ children
  | .galleryItem _ children => ∃ part ∈ parts, part.forest = some children
  | .list _ items => ∃ part ∈ parts, part.items = some items
  | .notImplemented target => ∃ part ∈ parts, part.node = some target
  | .text _ | .equation _ | .inlineMath _ | .error _ => True

def Param.PartsFrom (parts : List Reading) : Param → Prop
  | .content nodes => ∀ node ∈ nodes, ∃ part ∈ parts, part.node = some node
  | .list items => ∃ part ∈ parts, part.params = some items
  | .text _ => True

/-- Attributes and children may both be missing. -/
theorem Kind.element_of_node? {name attrs children : Option Reading} {node : Node}
    (h : Kind.element.node? [name, attrs, children] = some node) :
    ∃ name attrs nodes, node = .element name attrs nodes ∧
      (nodes = [] ∨ ∃ r, children = some r ∧ r.forest = some nodes) := by
  obtain ⟨name, -, h⟩ := Option.bind_eq_some_iff.1 h
  cases children with
  | none =>
      cases attrs with
      | none =>
          cases h
          exact ⟨name, ∅, [], rfl, .inl rfl⟩
      | some r =>
          obtain ⟨attrs, -, hnode⟩ := Option.bind_eq_some_iff.1 h
          cases hnode
          exact ⟨name, attrs, [], rfl, .inl rfl⟩
  | some r =>
      cases attrs with
      | none =>
          change r.forest.bind (fun nodes => some (Node.element name ∅ nodes)) = some node at h
          obtain ⟨nodes, hnodes, hnode⟩ := Option.bind_eq_some_iff.1 h
          cases hnode
          exact ⟨name, ∅, nodes, rfl, .inr ⟨r, rfl, hnodes⟩⟩
      | some r' =>
          obtain ⟨attrs, -, h⟩ := Option.bind_eq_some_iff.1 h
          obtain ⟨nodes, hnodes, hnode⟩ := Option.bind_eq_some_iff.1 h
          cases hnode
          exact ⟨name, attrs, nodes, rfl, .inr ⟨r, rfl, hnodes⟩⟩

/-- Parameters may be missing. -/
theorem Kind.template_of_node? {name params : Option Reading} {node : Node}
    (h : Kind.template.node? [name, params] = some node) :
    ∃ name entries, node = .template name entries ∧
      (entries = [] ∨ ∃ r, params = some r ∧ r.paramsByKey = some entries) := by
  obtain ⟨name, -, h⟩ := Option.bind_eq_some_iff.1 h
  cases params with
  | none =>
      cases h
      exact ⟨name, [], rfl, .inl rfl⟩
  | some r =>
      obtain ⟨entries, hentries, hnode⟩ := Option.bind_eq_some_iff.1 h
      cases hnode
      exact ⟨name, entries, rfl, .inr ⟨r, rfl, hentries⟩⟩

/-- A node is put together from its fields. -/
theorem Kind.partsFrom_of_node? {kind : Kind} {fields : List (Option Reading)} {node : Node}
    (h : kind.node? fields = some node) {parts : List Reading}
    (hfields : ∀ r, some r ∈ fields → r ∈ parts) : node.PartsFrom parts := by
  have hforest : ∀ field ∈ fields, ∀ nodes, Reading.forest? field = some nodes →
      ∃ part ∈ parts, part.forest = some nodes := by
    intro field hmem nodes hnodes
    obtain ⟨r, rfl, hr⟩ := Option.bind_eq_some_iff.1 hnodes
    exact ⟨r, hfields r hmem, hr⟩
  have hread := h
  unfold Kind.node? at h
  split at h
  all_goals simp only [bind, Option.bind_eq_some_iff, pure, Option.some.injEq, reduceCtorEq] at h
  case h_2 name attrs children =>
    obtain ⟨name, attrs, nodes, rfl, hnodes⟩ := Kind.element_of_node? hread
    refine hnodes.imp_right ?_
    rintro ⟨r, rfl, hr⟩
    exact ⟨r, hfields r (by simp), hr⟩
  case h_3 name params =>
    obtain ⟨name, entries, rfl, hentries⟩ := Kind.template_of_node? hread
    refine hentries.imp_right ?_
    rintro ⟨r, rfl, hr⟩
    exact ⟨r, hfields r (by simp), hr⟩
  case h_4 b children =>
    obtain ⟨nodes, hnodes, rfl⟩ := h
    exact hforest children (by simp) nodes hnodes
  case h_5 depth anchor children =>
    obtain ⟨_, -, _, -, nodes, hnodes, rfl⟩ := h
    exact hforest children (by simp) nodes hnodes
  case h_6 ordered items =>
    obtain ⟨_, -, forests, ⟨r, rfl, hforests⟩, rfl⟩ := h
    exact ⟨r, hfields r (by simp), hforests⟩
  case h_7 name url thumbnail caption =>
    obtain ⟨_, -, _, -, _, -, nodes, hnodes, rfl⟩ := h
    exact hforest caption (by simp) nodes hnodes
  case h_8 widths heights children =>
    obtain ⟨_, -, _, -, nodes, hnodes, rfl⟩ := h
    exact hforest children (by simp) nodes hnodes
  case h_9 name caption =>
    obtain ⟨_, -, nodes, hnodes, rfl⟩ := h
    exact hforest caption (by simp) nodes hnodes
  case h_13 target =>
    obtain ⟨node, ⟨r, rfl, hnode⟩, rfl⟩ := h
    exact ⟨r, hfields r (by simp), hnode⟩
  -- What is left are the kinds that have nothing but texts.
  all_goals
    obtain ⟨_, -, rfl⟩ := h
    trivial

/-! ## Values -/

namespace Reading

/-- Whatever is read is put together from what is read of the parts. -/
structure From (parts : List Reading) (r : Reading) : Prop where
  node : ∀ node, r.node = some node → node.PartsFrom parts
  forest : ∀ nodes, r.forest = some nodes → ∀ node ∈ nodes, ∃ part ∈ parts, part.node = some node
  items : ∀ items, r.items = some items →
    ∀ nodes ∈ items, ∃ part ∈ parts, part.forest = some nodes
  param : ∀ value, r.param = some value → value.PartsFrom parts
  params : ∀ items, r.params = some items →
    ∀ value ∈ items, ∃ part ∈ parts, part.param = some value
  paramsByKey : ∀ params, r.paramsByKey = some params → Keyed.Ascending params ∧
    ∀ entry ∈ params, ∃ part ∈ parts, part.param = some entry.2

theorem from_ofScalar (value : Json) (parts : List Reading) : (ofScalar value).From parts where
  node _ h := by cases h
  forest _ h := by cases h
  items _ h := by cases h
  param _ h := by
    obtain ⟨data, -, rfl⟩ := Option.map_eq_some_iff.1 h
    trivial
  params _ h := by cases h
  paramsByKey _ h := by cases h

theorem partsFrom_of_merged {r : Reading} {value : Param} (h : r.params.map .list = some value)
    {parts : List Reading} (hr : r ∈ parts) : value.PartsFrom parts := by
  obtain ⟨items, hitems, rfl⟩ := Option.map_eq_some_iff.1 h
  exact ⟨r, hr, hitems⟩

theorem from_ofItems (value : Json) (items : List Reading) :
    (ofItems value items).From items where
  node node hnode := by
    change nodeOfItems? items = some node at hnode
    cases items with
    | nil => cases hnode
    | cons first others =>
        simp only [nodeOfItems?, bind, Option.bind_eq_some_iff] at hnode
        obtain ⟨kind, -, fields, hfields, hnode⟩ := hnode
        exact Kind.partsFrom_of_node? hnode fun r hr =>
          List.mem_cons_of_mem _ (Record.mem_of_fromItems? hfields hr)
  forest _ := exists_mem_of_mapM
  items _ := exists_mem_of_mapM
  param param hparam := by
    rcases Option.or_eq_some_iff.1 hparam with hcontent | ⟨-, hmerged⟩
    · obtain ⟨nodes, hnodes, rfl⟩ := Option.map_eq_some_iff.1 hcontent
      exact exists_mem_of_mapM hnodes
    · unfold mergedOfItems? at hmerged
      split at hmerged
      · exact partsFrom_of_merged hmerged List.mem_cons_self
      · cases hmerged
  params _ := exists_mem_of_mapM
  paramsByKey _ h := by cases h

theorem from_ofFields (value : Json) (fields : List (String × Reading)) :
    (ofFields value fields).From (fields.map Prod.snd) where
  node node hnode := by
    change nodeOfFields? fields = some node at hnode
    unfold nodeOfFields? at hnode
    split at hnode
    · simp only [bind, Option.bind_eq_some_iff] at hnode
      obtain ⟨kind, -, others, hothers, hnode⟩ := hnode
      refine Kind.partsFrom_of_node? hnode fun r hr => ?_
      obtain ⟨name, hmem⟩ := Record.mem_of_fromFields? hothers hr
      exact List.mem_map_of_mem (List.mem_of_mem_filter hmem)
    · cases hnode
  forest _ h := by cases h
  items _ h := by cases h
  param param hparam := by
    change mergedOfFields? fields = some param at hparam
    unfold mergedOfFields? at hparam
    split at hparam
    · exact partsFrom_of_merged hparam List.mem_cons_self
    · cases hparam
  params _ h := by cases h
  paramsByKey params hparams := by
    obtain ⟨entries, hentries, hsorted⟩ := Option.bind_eq_some_iff.1 hparams
    cases hsorted
    refine ⟨Keyed.ascending_ofList entries, fun entry hmem => ?_⟩
    obtain ⟨field, hfield, hentry⟩ :=
      exists_mem_of_mapM hentries entry (Keyed.mem_of_mem_ofList hmem)
    obtain ⟨param, hparam, heq⟩ := Option.bind_eq_some_iff.1 hentry
    cases heq
    exact ⟨field.2, List.mem_map_of_mem hfield, hparam⟩

end Reading

end ArticleTree
