import ArticleTree.Proofs.Stages.Judgements

/-! # What a stage makes of a node

For each stage, the nodes that it can put in the place of another, and the fact that whatever
it puts below them was live in the node that it looked at, or is a text.
-/

namespace ArticleTree.Stages

open Judgement

variable {n other : Node}

/-! ## Numbered parameters -/

theorem mem_takeNumbered {family : String} {steps number : Nat} {params : List (String × Param)} :
    (∀ value ∈ (takeNumbered family steps number params).1, ∃ key, (key, value) ∈ params) ∧
      ∀ entry ∈ (takeNumbered family steps number params).2, entry ∈ params := by
  induction steps generalizing number params with
  | zero => exact ⟨fun _ h => absurd h List.not_mem_nil, fun _ h => h⟩
  | succ steps ih =>
      simp only [takeNumbered]
      split
      · exact ⟨fun _ h => absurd h List.not_mem_nil, fun _ h => h⟩
      · rename_i first hfirst
        obtain ⟨hvalues, hrest⟩ := @ih (number + 1) (Keyed.erase (family ++ toString number) params)
        refine ⟨?_, fun entry h => Keyed.mem_of_mem_erase (hrest entry h)⟩
        intro value h
        rcases List.mem_cons.1 h with rfl | h
        · exact ⟨_, Keyed.mem_of_get? hfirst⟩
        · obtain ⟨key, hmem⟩ := hvalues value h
          exact ⟨key, Keyed.mem_of_mem_erase hmem⟩

theorem mem_sequencesByKey_mergeFamily {family : String} {params : List (String × Param)}
    {s : Forest} (h : s ∈ Param.sequencesByKey (mergeFamily family params)) :
    s ∈ Param.sequencesByKey params := by
  obtain ⟨key, value, hmem, hs⟩ := Param.mem_sequencesByKey.1 h
  obtain ⟨hvalues, hrest⟩ := @mem_takeNumbered family params.length 1 params
  rcases Keyed.mem_insert hmem with heq | hmem
  · cases heq
    obtain ⟨item, hitem, hs⟩ := Param.mem_sequencesAll.1 hs
    obtain ⟨key, hmem⟩ := hvalues item hitem
    exact Param.mem_sequencesByKey.2 ⟨key, item, hmem, hs⟩
  · exact Param.mem_sequencesByKey.2 ⟨key, value, hrest _ hmem, hs⟩

theorem mem_sequencesByKey_mergeFamilies {families : List String}
    {params : List (String × Param)} {s : Forest}
    (h : s ∈ Param.sequencesByKey (mergeFamilies families params)) :
    s ∈ Param.sequencesByKey params := by
  induction families generalizing params with
  | nil => exact h
  | cons family families ih => exact mem_sequencesByKey_mergeFamily (ih h)

theorem confined_judgeNumbered : judgeNumbered.Confined := by
  apply confined_only
  intro n other h s hs m hm
  cases n with
  | template name params =>
      simp only [mergeNumbered] at h
      split at h
      · cases h
        exact .inl ⟨s, hs, .among hm⟩
      · cases h
        exact .inl ⟨s, mem_sequencesByKey_mergeFamilies hs, .among hm⟩
  | _ =>
      cases h
      exact .inl ⟨s, hs, .among hm⟩

/-- Merging keeps the name of a macro. -/
theorem result_judgeNumbered (h : (judgeNumbered n).result? = some other) :
    other = n ∨ ∃ name params params', n = .template name params ∧
      other = .template name params' := by
  unfold judgeNumbered only at h
  split at h
  · cases n with
    | template name params =>
        simp only [mergeNumbered] at h
        split at h
        · cases h
          exact .inl rfl
        · cases h
          exact .inr ⟨name, params, _, rfl, rfl⟩
    | _ => exact .inl (Option.some.inj h).symm
  · exact .inl (Option.some.inj h).symm

theorem turns_judgeNumbered : judgeNumbered.Turns [.template] := by
  intro n other h
  rcases result_judgeNumbered h with rfl | ⟨name, params, params', rfl, rfl⟩
  · exact .inl rfl
  · exact .inr (by simp [Node.kind])

/-! ## Lists, figures and tables -/

theorem live_of_mem_listItem {children : Forest} {child m : Node} (hchild : child ∈ children)
    (hm : m ∈ listItem child) : Live m children := by
  cases child with
  | element name attrs grandchildren =>
      exact .inside hchild (List.mem_singleton.2 rfl) (.among hm)
  | _ => exact .among (List.mem_singleton.1 hm ▸ hchild)

theorem confined_judgeLists : judgeLists.Confined := by
  apply confined_only
  intro n other h s hs m hm
  cases n with
  | element name attrs children =>
      cases h
      obtain ⟨child, hchild, rfl⟩ := List.mem_map.1 hs
      exact .inl ⟨children, List.mem_singleton.2 rfl, live_of_mem_listItem hchild hm⟩
  | _ =>
      cases h
      exact .inl ⟨s, hs, .among hm⟩

theorem turns_judgeLists : judgeLists.Turns [.list] := by
  intro n other h
  unfold judgeLists only at h
  split at h
  · cases n with
    | element name attrs children =>
        cases h
        exact .inr (by simp [Node.kind])
    | _ => exact .inl (Option.some.inj h).symm
  · exact .inl (Option.some.inj h).symm

theorem live_of_mem_figureCaption {children : Forest} {m : Node}
    (h : m ∈ figureCaption children) : Live m children := by
  induction children with
  | nil => cases h
  | cons child rest ih =>
      have later (h : m ∈ figureCaption rest) : Live m (child :: rest) := by
        cases ih h with
        | among hm => exact .among (List.mem_cons_of_mem _ hm)
        | inside hn hs hm => exact .inside (List.mem_cons_of_mem _ hn) hs hm
      cases child with
      | element name attrs caption =>
          simp only [figureCaption] at h
          split at h
          · exact .inside List.mem_cons_self (List.mem_singleton.2 rfl) (.among h)
          · exact later h
      | _ => exact later (by simpa only [figureCaption] using h)

theorem confined_judgeFigures : judgeFigures.Confined := by
  apply confined_only
  intro n other h s hs m hm
  cases n with
  | element name attrs children =>
      simp only [imageOfFigure] at h
      split at h
      · cases h
        obtain rfl := List.mem_singleton.1 hs
        exact .inl ⟨children, List.mem_singleton.2 rfl, live_of_mem_figureCaption hm⟩
      · cases h
        cases hs
  | _ =>
      cases h
      exact .inl ⟨s, hs, .among hm⟩

theorem turns_judgeFigures : judgeFigures.Turns [.image, .error] := by
  intro n other h
  unfold judgeFigures only at h
  split at h
  · cases n with
    | element name attrs children =>
        simp only [imageOfFigure] at h
        split at h
        · cases h
          exact .inr (by simp [Node.kind])
        · cases h
          exact .inr (by simp [Node.kind])
    | _ => exact .inl (Option.some.inj h).symm
  · exact .inl (Option.some.inj h).symm

theorem confined_judgeInlineFigures : judgeInlineFigures.Confined := by
  apply confined_only
  intro n other h s hs m hm
  cases h
  cases hs

theorem turns_judgeInlineFigures : judgeInlineFigures.Turns [.error] := by
  intro n other h
  unfold judgeInlineFigures only at h
  split at h
  · cases h
    exact .inr (by simp [Node.kind])
  · exact .inl (Option.some.inj h).symm

theorem live_of_mem_tableRows {children : Forest} {m : Node} (h : m ∈ tableRows children) :
    Live m children := by
  unfold tableRows at h
  split at h
  · exact .inside List.mem_cons_self (List.mem_singleton.2 rfl) (.among h)
  · cases h
  · exact .among h

theorem confined_judgeTables : judgeTables.Confined := by
  apply confined_only
  intro n other h s hs m hm
  cases n with
  | element name attrs children =>
      cases h
      obtain rfl := List.mem_singleton.1 hs
      exact .inl ⟨children, List.mem_singleton.2 rfl, live_of_mem_tableRows hm⟩
  | _ =>
      cases h
      exact .inl ⟨s, hs, .among hm⟩

theorem turns_judgeTables : judgeTables.Turns [.block .table] := by
  intro n other h
  unfold judgeTables only at h
  split at h
  · cases n with
    | element name attrs children =>
        cases h
        exact .inr (by simp [Node.kind])
    | _ => exact .inl (Option.some.inj h).symm
  · exact .inl (Option.some.inj h).symm

/-! ## Formulas -/

theorem kind_formulaOfElement (n : Node) :
    (formulaOfElement n).kind = .inlineMath ∨ (formulaOfElement n).kind = .error := by
  unfold formulaOfElement
  split
  · exact .inl rfl
  · exact .inr rfl

theorem sequences_formulaOfElement (n : Node) : (formulaOfElement n).sequences = [] := by
  unfold formulaOfElement
  split <;> rfl

theorem confined_judgeInlineMath : judgeInlineMath.Confined := by
  apply confined_only
  intro n other h s hs m hm
  cases h
  simp [sequences_formulaOfElement] at hs

theorem turns_judgeInlineMath : judgeInlineMath.Turns [.inlineMath, .error] := by
  intro n other h
  unfold judgeInlineMath only at h
  split at h
  · cases h
    exact .inr (by simpa using kind_formulaOfElement n)
  · exact .inl (Option.some.inj h).symm

/-- An aligned formula does not stay. -/
theorem result_judgeWrongInlineMath (h : (judgeWrongInlineMath n).result? = some other) :
    (other = n ∧ ∀ formula, n = .inlineMath formula → Text.contains alignBegin formula = false) ∨
      ∃ message, other = .error message := by
  unfold judgeWrongInlineMath only at h
  split at h
  · cases n with
    | inlineMath formula =>
        simp only [singleExpression] at h
        split at h
        · cases h
          exact .inr ⟨_, rfl⟩
        · rename_i hcontains
          cases h
          refine .inl ⟨rfl, ?_⟩
          intro formula' heq
          cases heq
          simpa using hcontains
    | _ => exact .inl ⟨(Option.some.inj h).symm, by simp⟩
  · rename_i hkind
    refine .inl ⟨(Option.some.inj h).symm, ?_⟩
    intro formula heq
    simp [heq, Node.kind] at hkind

theorem turns_judgeWrongInlineMath : judgeWrongInlineMath.Turns [.error] := by
  intro n other h
  rcases result_judgeWrongInlineMath h with ⟨rfl, _⟩ | ⟨message, rfl⟩
  · exact .inl rfl
  · exact .inr (by simp [Node.kind])

theorem leavesBare_judgeWrongInlineMath : judgeWrongInlineMath.LeavesBare := by
  apply leavesBare_only
  intro n other h
  cases n with
  | inlineMath formula =>
      simp only [singleExpression] at h
      split at h
      · cases h
        rfl
      · cases h
  | _ => cases h

theorem confined_judgeWrongInlineMath : judgeWrongInlineMath.Confined := by
  intro n other h s hs m hm
  rcases result_judgeWrongInlineMath h with ⟨rfl, _⟩ | ⟨message, rfl⟩
  · exact .inl ⟨s, hs, .among hm⟩
  · cases hs

/-! ## Removal -/

/-- A node that is not removed stays as it is. -/
theorem result_only_drop {condition : Node → Bool}
    (h : (only condition (fun _ => .drop) n).result? = some other) :
    other = n ∧ condition n = false := by
  unfold only at h
  split at h
  · cases h
  · rename_i hcondition
    exact ⟨(Option.some.inj h).symm, by simpa using hcondition⟩

theorem turns_only_drop (condition : Node → Bool) :
    (only condition fun _ => .drop).Turns [] :=
  fun _ _ h => .inl (result_only_drop h).1

theorem leavesBare_only_drop (condition : Node → Bool) :
    (only condition fun _ => .drop).LeavesBare :=
  leavesBare_only (by simp [LeavesBare])

theorem confined_only_drop (condition : Node → Bool) :
    (only condition fun _ => .drop).Confined :=
  confined_only (by simp [Confined, Verdict.result?])

/-! ## Macros -/

theorem mem_sequences_of_itemParams {params : List (String × Param)} {item : Param} {s : Forest}
    (hitem : item ∈ itemParams params) (hs : s ∈ item.sequences) :
    s ∈ Param.sequencesByKey params := by
  unfold itemParams at hitem
  split at hitem
  · rename_i items hget
    exact Param.mem_sequencesByKey.2
      ⟨_, _, Keyed.mem_of_get? hget, Param.mem_sequencesAll.2 ⟨item, hitem, hs⟩⟩
  · rename_i hget
    exact Param.mem_sequencesByKey.2
      ⟨_, _, Keyed.mem_of_get? hget, List.mem_singleton.1 hitem ▸ hs⟩
  · cases hitem

theorem kind_equationOfMacro (n : Node) :
    (equationOfMacro n).kind = .equation ∨ (equationOfMacro n).kind = .error := by
  unfold equationOfMacro
  split
  · exact .inl rfl
  · exact .inr rfl

theorem sequences_equationOfMacro (n : Node) : (equationOfMacro n).sequences = [] := by
  unfold equationOfMacro
  split <;> rfl

/-- No macro with a meaning stays. -/
theorem result_judgeMacros (h : (judgeMacros n).result? = some other) :
    (other = n ∧ ∀ name params, n = .template name params → name ≠ "Liste" ∧ name ≠ "Formel") ∨
      other.kind = .list ∨ other.kind = .equation ∨ other.kind = .error := by
  unfold judgeMacros only at h
  split at h
  · cases n with
    | template name params =>
        simp only [meaningOfMacro] at h
        split at h
        · cases h
          exact .inr (.inl rfl)
        · rename_i hliste
          split at h
          · cases h
            exact .inr (.inr (kind_equationOfMacro _))
          · rename_i hformel
            refine .inl ⟨(Option.some.inj h).symm, ?_⟩
            intro name' params' heq
            cases heq
            exact ⟨hliste, hformel⟩
    | _ => exact .inl ⟨(Option.some.inj h).symm, by simp⟩
  · rename_i hkind
    refine .inl ⟨(Option.some.inj h).symm, ?_⟩
    intro name params heq
    simp [heq, Node.kind] at hkind

theorem turns_judgeMacros : judgeMacros.Turns [.list, .equation, .error] := by
  intro n other h
  rcases result_judgeMacros h with ⟨rfl, _⟩ | hkind
  · exact .inl rfl
  · exact .inr (by simpa using hkind)

theorem leavesBare_judgeMacros : judgeMacros.LeavesBare := by
  apply leavesBare_only
  intro n other h
  cases n with
  | template name params =>
      simp only [meaningOfMacro] at h
      split at h
      · cases h
      · split at h
        · cases h
          exact sequences_equationOfMacro _
        · cases h
  | _ => cases h

theorem confined_judgeMacros : judgeMacros.Confined := by
  apply confined_only
  intro n other h s hs m hm
  cases n with
  | template name params =>
      simp only [meaningOfMacro] at h
      split at h
      · cases h
        obtain ⟨item, hitem, rfl⟩ := List.mem_map.1 hs
        rcases Param.mem_toForest hm with ⟨t, ht, hm⟩ | htext
        · exact .inl ⟨t, mem_sequences_of_itemParams hitem ht, .among hm⟩
        · exact .inr htext
      · split at h
        · cases h
          simp [sequences_equationOfMacro] at hs
        · cases h
          exact .inl ⟨s, hs, .among hm⟩
  | _ =>
      cases h
      exact .inl ⟨s, hs, .among hm⟩

/-! ## Elements that are left, and anchors -/

/-- No element stays, and headings of elements have depth 1 or 2. -/
theorem result_judgeKinds (h : (judgeKinds n).result? = some other) :
    (other = n ∧ n.kind ≠ .element) ∨ (∃ b children, other = .block b children) ∨
      (∃ depth children, other = .header depth none children ∧ (depth = 1 ∨ depth = 2)) ∨
      other.kind = .error ∨ other.kind = .notImplemented := by
  unfold judgeKinds only at h
  split at h
  · cases n with
    | element name attrs children =>
        simp only [kindOfElement] at h
        split at h
        · cases h
          exact .inr (.inl ⟨_, _, rfl⟩)
        · rename_i level _ _
          split at h
          · rename_i hlevel
            cases h
            refine .inr (.inr (.inl ⟨_, _, rfl, ?_⟩))
            rcases hlevel with rfl | rfl
            · exact .inl rfl
            · exact .inr rfl
          · cases h
            exact .inr (.inr (.inr (.inl rfl)))
        · cases h
          exact .inr (.inr (.inr (.inr rfl)))
    | _ => exact .inl ⟨(Option.some.inj h).symm, by simp [Node.kind]⟩
  · rename_i hkind
    exact .inl ⟨(Option.some.inj h).symm, by simpa using hkind⟩

/-- The kinds that an element can turn into. -/
def elementKinds : List Kind :=
  [.block .paragraph, .block .italic, .block .bold, .block .table, .block .row, .block .cell,
    .block .headCell, .header, .error, .notImplemented]

theorem turns_judgeKinds : judgeKinds.Turns elementKinds := by
  intro n other h
  rcases result_judgeKinds h with ⟨rfl, _⟩ | ⟨b, children, rfl⟩ | ⟨depth, children, rfl, _⟩ | hkind
  · exact .inl rfl
  · exact .inr (by cases b <;> simp [elementKinds, Node.kind])
  · exact .inr (by simp [elementKinds, Node.kind])
  · exact .inr (by rcases hkind with hkind | hkind <;> simp [elementKinds, hkind])

theorem leavesBare_judgeKinds : judgeKinds.LeavesBare := by
  apply leavesBare_only
  intro n other h
  cases n with
  | element name attrs children =>
      simp only [kindOfElement] at h
      split at h
      · cases h
      · split at h
        · cases h
        · cases h
          rfl
      · cases h
        rfl
  | _ => cases h

theorem confined_judgeKinds : judgeKinds.Confined := by
  apply confined_only
  intro n other h s hs m hm
  cases n with
  | element name attrs children =>
      simp only [kindOfElement] at h
      split at h
      · cases h
        exact .inl ⟨s, hs, .among hm⟩
      · split at h
        · cases h
          exact .inl ⟨s, hs, .among hm⟩
        · cases h
          cases hs
      · cases h
        cases hs
  | _ =>
      cases h
      exact .inl ⟨s, hs, .among hm⟩

theorem mem_trimLast {nodes : Forest} {m : Node} (h : m ∈ trimLast nodes) :
    m ∈ nodes ∨ ∃ data, m = .text data := by
  unfold trimLast at h
  split at h
  · rename_i data rest heq
    rcases List.mem_cons.1 (List.mem_reverse.1 h) with rfl | h
    · exact .inr ⟨_, rfl⟩
    · exact .inl (List.mem_reverse.1 (heq ▸ List.mem_cons_of_mem _ h))
  · exact .inl h

theorem confined_judgeAnchors : judgeAnchors.Confined := by
  apply confined_only
  intro n other h s hs m hm
  cases n with
  | header depth anchor children =>
      simp only [hoistAnchor] at h
      split at h
      · cases h
        obtain rfl := List.mem_singleton.1 hs
        rcases mem_trimLast hm with hm | htext
        · exact .inl ⟨children, List.mem_singleton.2 rfl, .among (List.dropLast_subset _ hm)⟩
        · exact .inr htext
      · cases h
        exact .inl ⟨s, hs, .among hm⟩
  | _ =>
      cases h
      exact .inl ⟨s, hs, .among hm⟩

/-- A heading stays a heading of its depth. -/
theorem result_judgeAnchors (h : (judgeAnchors n).result? = some other) :
    other = n ∨ ∃ depth anchor anchor' children children',
      n = .header depth anchor children ∧ other = .header depth anchor' children' := by
  unfold judgeAnchors only at h
  split at h
  · cases n with
    | header depth anchor children =>
        simp only [hoistAnchor] at h
        split at h
        · cases h
          exact .inr ⟨_, _, _, _, _, rfl, rfl⟩
        · cases h
          exact .inl rfl
    | _ => exact .inl (Option.some.inj h).symm
  · exact .inl (Option.some.inj h).symm

theorem turns_judgeAnchors : judgeAnchors.Turns [.header] := by
  intro n other h
  rcases result_judgeAnchors h with rfl | ⟨depth, anchor, anchor', children, children', _, rfl⟩
  · exact .inl rfl
  · exact .inr (by simp [Node.kind])

end ArticleTree.Stages
