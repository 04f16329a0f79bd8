import ArticleTree.Proofs.Stages.Early
import ArticleTree.Proofs.Stages.Late

/-! # Taking fragments out in the middle, and at the beginning

The removal of fragments is the eighth stage. Here it is compared with removing them before
the first: for each shape of node there is what becomes of it in both orders, by what becomes
of the sequences below.
-/

namespace ArticleTree

open Judgement Stages

/-! ## Pruning -/

/-- The forest without the fragments at every depth. -/
def prune : Forest → Forest :=
  (only isFragment fun _ => .drop).walk

@[simp] theorem prune_nil : prune [] = [] := walk_nil

theorem prune_append (xs ys : Forest) : prune (xs ++ ys) = prune xs ++ prune ys :=
  walk_append xs ys

theorem prune_fragment {n : Node} (h : isFragment n = true) : prune [n] = [] := by
  rw [prune, walk_singleton, node_drop (only_of h)]
  rfl

@[simp] theorem isFragment_refill (n : Node) (given : List Forest) :
    isFragment (n.refill given) = isFragment n :=
  Guard.passes_refill _ n given

theorem prune_of_not {n : Node} (h : isFragment n = false) :
    prune [n] = [n.refill (n.sequences.map prune)] :=
  walk_inert (inert_only fun given => by rw [isFragment_refill, h])

theorem prune_element {name : String} {attrs : Attributes} {children : Forest}
    (h : isFragment (.element name attrs children) = false) :
    prune [.element name attrs children] = [.element name attrs (prune children)] :=
  prune_of_not h

theorem prune_cons (n : Node) (rest : Forest) : prune (n :: rest) = prune [n] ++ prune rest :=
  prune_append [n] rest

theorem isFragment_of_kind {n : Node} (h : n.kind ≠ .element) : isFragment n = false := by
  rw [Bool.eq_false_iff, isFragment]
  simp [Guard.passes_iff, h]

theorem isFragment_element (name : String) (attrs : Attributes) (children children' : Forest) :
    isFragment (.element name attrs children) = isFragment (.element name attrs children') :=
  (isFragment_refill (.element name attrs children) [children']).symm

/-- An element without attributes is no fragment. -/
theorem isFragment_bare (name : String) (children : Forest) :
    isFragment (.element name ∅ children) = false := by
  rw [isFragment_element name ∅ children []]
  rfl

theorem prune_of_kind {n : Node} (h : n.kind ≠ .element) :
    prune [n] = [n.refill (n.sequences.map prune)] :=
  prune_of_not (isFragment_of_kind h)

theorem prune_eq_map {nodes : Forest} (h : ∀ n ∈ nodes, isFragment n = false) :
    prune nodes = nodes.map fun n => n.refill (n.sequences.map prune) := by
  induction nodes with
  | nil => simp
  | cons n rest ih =>
      rw [prune_cons, prune_of_not (h n List.mem_cons_self),
        ih fun m hm => h m (List.mem_cons_of_mem _ hm)]
      rfl

/-- Pruning leaves as many nodes as there are only if there is no fragment. -/
theorem length_prune {nodes : Forest} : (prune nodes).length ≤ nodes.length ∧
    ((prune nodes).length = nodes.length → ∀ n ∈ nodes, isFragment n = false) := by
  induction nodes with
  | nil => simp
  | cons n rest ih =>
      rw [prune_cons, List.length_append, List.length_cons]
      cases hn : isFragment n with
      | true =>
          rw [prune_fragment hn, List.length_nil]
          refine ⟨by omega, ?_⟩
          intro hlength
          omega
      | false =>
          rw [prune_of_not hn, List.length_singleton]
          refine ⟨by omega, ?_⟩
          intro hlength m hm
          rcases List.mem_cons.1 hm with rfl | hm
          · exact hn
          · exact ih.2 (by omega) m hm

/-- Fragments are taken out of the forest, or none are. -/
def pruneIf (strip : Bool) (nodes : Forest) : Forest :=
  if strip then prune nodes else nodes

section PruneIf

variable (strip : Bool)

theorem pruneIf_nil : pruneIf strip [] = [] := by
  cases strip with
  | false => rfl
  | true => exact prune_nil

theorem pruneIf_append (xs ys : Forest) :
    pruneIf strip (xs ++ ys) = pruneIf strip xs ++ pruneIf strip ys := by
  cases strip with
  | false => rfl
  | true => exact prune_append xs ys

theorem pruneIf_of_not {strip : Bool} {n : Node} (h : strip = true → isFragment n = false) :
    pruneIf strip [n] = [n.refill (n.sequences.map (pruneIf strip))] := by
  cases strip with
  | false =>
      have hsame : n.sequences.map (pruneIf false) = n.sequences := List.map_id n.sequences
      rw [hsame, n.refill_sequences]
      rfl
  | true => exact prune_of_not (h rfl)

theorem pruneIf_of_kind {n : Node} (h : n.kind ≠ .element) :
    pruneIf strip [n] = [n.refill (n.sequences.map (pruneIf strip))] :=
  pruneIf_of_not fun _ => isFragment_of_kind h

end PruneIf

/-! ## The two orders -/

/-- What the stages make of a forest, if fragments are taken out between those before and those
    after, or if none are. -/
def staged (strip : Bool) (place : Place) (nodes : Forest) : Forest :=
  walkAll place.late (pruneIf strip (walkAll early nodes))

section Staged

variable {strip : Bool} {place : Place}

@[simp] theorem staged_nil : staged strip place [] = [] := by
  rw [staged, walkAll_nil, pruneIf_nil, walkAll_nil]

theorem staged_append (xs ys : Forest) :
    staged strip place (xs ++ ys) = staged strip place xs ++ staged strip place ys := by
  simp only [staged, walkAll_append, pruneIf_append]

theorem staged_cons (n : Node) (rest : Forest) :
    staged strip place (n :: rest) = staged strip place [n] ++ staged strip place rest :=
  staged_append [n] rest

/-- The article chain takes fragments out in the middle if that is wanted. -/
theorem conversion_eq_staged (options : Options) (nodes : Forest) :
    conversion options nodes = staged options.stripFragments .article nodes := by
  have hfragments (nodes : Forest) :
      (judgeFragments options).walk nodes = pruneIf options.stripFragments nodes := by
    cases hstrip : options.stripFragments with
    | false => exact walk_of_descend fun _ _ => only_of_not (by simp [hstrip])
    | true =>
        have honly : judgeFragments options = only isFragment fun _ => .drop := by
          simp [judgeFragments, hstrip]
        rw [honly]
        rfl
  simp only [conversion, hfragments]
  rfl

end Staged

/-! ## Elements that a stage claims -/

section Elements

variable {name : String} {attrs : Attributes} {children : Forest} {strip : Bool} {place : Place}

theorem late_pruneIf_of_kind {n : Node} (h : n.kind ∉ [.template, .element, .header]) :
    walkAll place.late (pruneIf strip [n]) =
      [n.refill (n.sequences.map fun s => walkAll place.late (pruneIf strip s))] := by
  have helement : n.kind ≠ .element := fun heq => h (by simp [heq])
  have hlength : (n.sequences.map (pruneIf strip)).length = n.sequences.length :=
    List.length_map _
  rw [pruneIf_of_kind strip helement, late_of_kind (by rwa [Node.kind_refill]),
    Node.sequences_refill hlength, List.map_map, Node.refill_refill _ _ (by simp)]
  rfl

theorem staged_list (h : claim? (.element name attrs children) = some .list) :
    staged strip place [.element name attrs children] =
      [.list (name == "ol") (children.map fun c => staged strip place (listItem c))] := by
  rw [staged, early_list h, late_pruneIf_of_kind (by simp [Node.kind])]
  simp only [Node.refill, Node.sequences, List.map_map]
  rfl

theorem staged_figure (h : claim? (.element name attrs children) = some .figure) :
    staged strip place [.element name attrs children] =
      match figureFile? children with
      | some file => [imageOf attrs file (staged strip place (figureCaption children))]
      | none => [.error "Figure does not embed a file"] := by
  rw [staged, early_figure h]
  cases figureFile? children with
  | none => exact late_pruneIf_of_kind (by simp [Node.kind])
  | some file => exact late_pruneIf_of_kind (by simp [imageOf, Node.kind])

theorem staged_inlineFigure (h : claim? (.element name attrs children) = some .inlineFigure) :
    staged strip place [.element name attrs children] =
      [.error "Inline images are not allowed"] := by
  rw [staged, early_inlineFigure h]
  exact late_pruneIf_of_kind (by simp [Node.kind])

theorem staged_table (h : claim? (.element name attrs children) = some .table) :
    staged strip place [.element name attrs children] =
      [.block .table (staged strip place (tableRows children))] := by
  rw [staged, early_table h]
  exact late_pruneIf_of_kind (by simp [Node.kind])

/-- A formula is the same in both orders, whatever is below its element. -/
theorem exists_math (h : claim? (.element name attrs children) = some .math) (place : Place) :
    ∃ m : Node, (m.kind = .inlineMath ∨ m.kind = .error) ∧
      ∀ strip children', staged strip place [.element name attrs children'] = [m] := by
  obtain ⟨m, hkind, hearly⟩ := early_math h
  have hleaf : m.sequences = [] := by
    cases m with
    | inlineMath | error => rfl
    | _ => rcases hkind with hkind | hkind <;> cases hkind
  have hkinds : m.kind ∉ [.template, .element, .header] := by
    rcases hkind with hkind | hkind <;> simp [hkind]
  refine ⟨m, hkind, fun strip children' => ?_⟩
  rw [staged, hearly, late_pruneIf_of_kind hkinds, hleaf, List.map_nil, ← hleaf,
    m.refill_sequences]

/-! ## Elements that nobody claims -/

theorem staged_element (hclaim : claim? (.element name attrs children) = none)
    (hfragment : strip = true → isFragment (.element name attrs children) = false) :
    staged strip place [.element name attrs children] =
      walkAll place.late [.element name attrs (pruneIf strip (walkAll early children))] := by
  have hmarked (hstrip : strip = true) :
      isFragment (.element name attrs (walkAll early children)) = false :=
    (isFragment_element ..).trans (hfragment hstrip)
  rw [staged, early_element hclaim, pruneIf_of_not hmarked]
  rfl

end Elements

/-! ## Texts and macros -/

section Macros

open Keyed (mapValues)
open Param (mapForests Distributes)

variable {name : String} {params : List (String × Param)} {strip : Bool} {place : Place}
  {f : Forest → Forest}

theorem early_text (data : String) : walkAll early [.text data] = [.text data] :=
  early_of_inert (claim?_of_kind (by simp [Node.kind])) (by simp [Node.kind])
    (by simp [Node.kind])

theorem prune_text (data : String) : prune [.text data] = [.text data] :=
  prune_of_kind (by simp [Node.kind])

theorem late_text (data : String) : walkAll place.late [.text data] = [.text data] :=
  late_of_kind (by simp [Node.kind]) place

theorem distributes_early : Distributes (walkAll early) :=
  ⟨walkAll_nil early, walkAll_append early, early_text⟩

theorem pruneIf_text (strip : Bool) (data : String) :
    pruneIf strip [.text data] = [.text data] :=
  pruneIf_of_kind strip (by simp [Node.kind])

theorem distributes_pruneIf (strip : Bool) : Distributes (pruneIf strip) :=
  ⟨pruneIf_nil strip, pruneIf_append strip, pruneIf_text strip⟩

theorem distributes_prune : Distributes prune :=
  distributes_pruneIf true

theorem staged_text (data : String) : staged strip place [.text data] = [.text data] := by
  rw [staged, early_text, pruneIf_text, late_text]

theorem staged_template :
    staged strip place [.template name params] =
      walkAll place.late [(merged name params).refill
        ((merged name params).sequences.map fun s => pruneIf strip (walkAll early s))] := by
  have hlength : ((merged name params).sequences.map (walkAll early)).length =
      (merged name params).sequences.length := List.length_map _
  rw [staged, early_template,
    pruneIf_of_kind strip (by rw [Node.kind_refill]; simp [merged, Node.kind]),
    Node.sequences_refill hlength, List.map_map, Node.refill_refill _ _ (by simp)]
  rfl

/-- Here fragments are taken out before the first stage. -/
theorem staged_prune_template :
    staged false place (prune [.template name params]) =
      walkAll place.late [(merged name params).refill
        ((merged name params).sequences.map fun s => walkAll early (prune s))] := by
  have hlength : ((merged name params).sequences.map prune).length =
      (merged name params).sequences.length := List.length_map _
  rw [prune_of_kind (by simp [Node.kind]), Node.refill_template, staged_template,
    merged_mapValues, Node.sequences_refill hlength, List.map_map,
    Node.refill_refill _ _ (by simp)]
  rfl

theorem itemParams_mapValues :
    itemParams (mapValues (mapForests f) params) = (itemParams params).map (mapForests f) := by
  unfold itemParams
  rw [Keyed.get?_mapValues]
  cases Keyed.get? "item_list" params with
  | none => rfl
  | some value =>
      cases value with
      | list items => exact Param.mapForestsAll_eq_map items
      | content | text => rfl

/-! What is below a macro may have been rewritten before the last stages come. -/

theorem late_call_refill (hliste : name ≠ "Liste") (hformel : name ≠ "Formel")
    (hinvocation : isInvocation (.template name params) = false) :
    walkAll place.late [(Node.template name params).refill
        ((Node.template name params).sequences.map f)] =
      [(Node.template name params).refill
        ((Node.template name params).sequences.map fun s => walkAll place.late (f s))] := by
  have hlength : ((Node.template name params).sequences.map f).length =
      (Node.template name params).sequences.length := List.length_map _
  have hlate := @late_call name (mapValues (mapForests f) params) hliste hformel hinvocation place
  rw [← Node.refill_template, Node.sequences_refill hlength, List.map_map,
    Node.refill_refill _ _ (by simp)] at hlate
  exact hlate

theorem late_invocation_refill (h : isInvocation (.template name params) = true) :
    walkAll place.late [(Node.template name params).refill
      ((Node.template name params).sequences.map f)] = [] := by
  rw [Node.refill_template]
  exact @late_invocation name (mapValues (mapForests f) params) h place

theorem late_liste_refill (hf : Distributes f) :
    walkAll place.late [(Node.template "Liste" params).refill
        ((Node.template "Liste" params).sequences.map f)] =
      [.list ((Node.template "Liste" params).textParam? "type" == some "ol")
        ((itemParams params).map fun item => walkAll place.late (f item.toForest))] := by
  rw [Node.refill_template, late_liste, Node.textParam?_mapValues, itemParams_mapValues]
  simp only [List.map_map, Function.comp_def, Param.toForest_mapForests hf]

theorem late_formel_refill :
    walkAll place.late [(Node.template "Formel" params).refill
        ((Node.template "Formel" params).sequences.map f)] =
      [equationOfMacro (.template "Formel" params)] := by
  rw [Node.refill_template, late_formel]
  unfold equationOfMacro
  rw [Node.textParam?_mapValues]

end Macros

end ArticleTree
