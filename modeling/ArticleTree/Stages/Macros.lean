import ArticleTree.Stages.Formulas

/-! # Macros with a meaning

Two macros stand for document nodes: a list, and a formula on a line of its own. Others
only manage the page and carry no content.
-/

namespace ArticleTree.Stages

/-! ## Lists -/

/-- The items of a list, as parameters. -/
def itemParams (params : List (String × Param)) : List Param :=
  match Keyed.get? "item_list" params with
  | some (.list items) => items
  | some other => [other]
  | none => []

mutual

theorem weightAll_toForest (value : Param) : Node.weightAll value.toForest ≤ value.weight := by
  cases value with
  | content nodes => simp [Param.toForest, Param.weight]
  | list items =>
      simp only [Param.toForest, Param.weight]
      exact weightAll_toForestAll items
  | text data =>
      simp only [Param.toForest, Param.weight]
      split <;> simp [Node.weightAll, Node.weight]

theorem weightAll_toForestAll (items : List Param) :
    Node.weightAll (Param.toForestAll items) ≤ Param.weightAll items := by
  cases items with
  | nil => simp [Param.toForestAll, Node.weightAll]
  | cons item items =>
      have hfirst := weightAll_toForest item
      have hrest := weightAll_toForestAll items
      simp only [Param.toForestAll, Node.weightAll_append, Param.weightAll]
      omega

end

theorem weightItems_map_toForest (items : List Param) :
    Node.weightItems (items.map Param.toForest) ≤ Param.weightAll items := by
  induction items with
  | nil => simp [Node.weightItems]
  | cons item items ih =>
      have := weightAll_toForest item
      simp only [List.map_cons, Node.weightItems, Param.weightAll]
      omega

theorem weight_le_weightByKey {key : String} {params : List (String × Param)} {value : Param}
    (h : Keyed.get? key params = some value) : value.weight ≤ Param.weightByKey params := by
  induction params with
  | nil => simp [Keyed.get?] at h
  | cons entry params ih =>
      obtain ⟨k, v⟩ := entry
      unfold Keyed.get? at h
      simp only [Param.weightByKey]
      split at h
      · cases h
        omega
      · have := ih h
        omega

theorem weightAll_itemParams (params : List (String × Param)) :
    Param.weightAll (itemParams params) ≤ Param.weightByKey params := by
  unfold itemParams
  split
  next items h =>
    have := weight_le_weightByKey h
    simpa only [Param.weight] using this
  next other _ h =>
    have := weight_le_weightByKey h
    simpa only [Param.weightAll, Nat.add_zero] using this
  next => simp [Param.weightAll]

/-! ## Formulas -/

/-- What stands for the macro of a formula. -/
def equationOfMacro (node : Node) : Node :=
  match (node.textParam? "1").bind displayFormula? with
  | some formula => .equation formula
  | none => .error "Formel needs a <math> formula as its first parameter"

theorem innerWeight_items_lt (name : String) (params : List (String × Param))
    (ordered : Bool) :
    (Node.list ordered ((itemParams params).map Param.toForest)).innerWeight <
      (Node.template name params).weight := by
  have hitems := weightItems_map_toForest (itemParams params)
  have hparams := weightAll_itemParams params
  simp only [Node.innerWeight, Node.weight]
  omega

/-- What becomes of a macro. -/
def meaningOfMacro : (node : Node) → Verdict node
  | .template name params =>
      if name = "Liste" then
        let ordered := (Node.template name params).textParam? "type" == some "ol"
        .into (.list ordered ((itemParams params).map Param.toForest))
          (innerWeight_items_lt name params ordered)
      else if name = "Formel" then .done (equationOfMacro (.template name params))
      else .descend
  | _ => .descend

/-- Macros with a meaning become document nodes. -/
def macros : Pass :=
  .onKind "templates" .template fun _ node => return meaningOfMacro node

/-- How the names of macros begin that only manage the page. -/
def invocation : String := "#invoke:"

/-- The node is a macro that only manages the page. -/
def isInvocation : Node → Bool
  | .template name _ => Text.beginsWith invocation name
  | _ => false

/-- Macros that only manage the page are taken out. -/
def headerAndFooter : Pass :=
  .delete "delete-header-and-footer" isInvocation

end ArticleTree.Stages
