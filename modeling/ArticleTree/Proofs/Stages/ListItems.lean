import ArticleTree.Proofs.Pass.Rewritten
import ArticleTree.Proofs.Stages.Confined
import ArticleTree.Proofs.Stages.Picking

/-! # The items of lists

A list of markup becomes a list with an item for each child. An item should be what is in a child
that is marked as one, and any other child itself. The stage takes what is in the child whatever
element that is, so a list, a table or a figure that stands in a list by itself is lost. Which
forests come out as they should is seen by counting: only the stage loses nodes that mark no item.
-/

namespace ArticleTree.Stages

open Judgement

/-- The item that a child of a list stands for: what is in it if it is marked as an item, or
    itself. -/
def itemOf : Node → Forest
  | .element "li" _ children => children
  | other => [other]

/-- Lists of markup give way to lists with an item for each child, and other nodes stay. -/
inductive ListRule (item : Node → Forest) : Node → Node → Prop where
  | list {name : String} {attrs : Attributes} {children : Forest} : name ∈ ["ul", "ol"] →
      ListRule item (.element name attrs children) (.list (name == "ol") (children.map item))
  | other {n : Node} : (∀ name attrs children, n = .element name attrs children →
      name ∉ ["ul", "ol"]) → ListRule item n n

/-- If the node is a list of markup, the elements in it are all marked as items. -/
def HoldsItems (n : Node) : Prop :=
  ∀ name attrs children, n = .element name attrs children → name ∈ ["ul", "ol"] →
    ∀ child ∈ children, child.kind = .element → child.name? = some "li"

section Rule

variable {name : String} {attrs : Attributes} {children : Forest} {n other : Node}
  {item : Node → Forest}

theorem isList_element : isList (.element name attrs children) = true ↔ name ∈ ["ul", "ol"] := by
  simp [isList, Guard.passes_iff, Node.kind, Node.name?]

theorem notMem_of_not_isList (h : isList (.element name attrs children) = false) :
    name ∉ ["ul", "ol"] := by
  intro hname
  rw [isList_element.2 hname] at h
  cases h

theorem listRule_element (hname : name ∈ ["ul", "ol"]) :
    ListRule item (.element name attrs children) other ↔
      other = .list (name == "ol") (children.map item) := by
  constructor
  · intro h
    cases h with
    | list => rfl
    | other hother => exact absurd hname (hother _ _ _ rfl)
  · rintro rfl
    exact .list hname

theorem listRule_of_not (hlist : isList n = false) : ListRule item n other ↔ other = n := by
  constructor
  · intro h
    cases h with
    | list hname => exact absurd hname (notMem_of_not_isList hlist)
    | other => rfl
  · rintro rfl
    refine .other ?_
    rintro name attrs children rfl
    exact notMem_of_not_isList hlist

theorem listItem_eq_itemOf {child : Node}
    (h : child.kind = .element → child.name? = some "li") : listItem child = itemOf child := by
  cases child with
  | element name attrs children =>
      obtain rfl : name = "li" := by simpa [Node.kind, Node.name?] using h
      rfl
  | _ => rfl

theorem ListRule.itemOf (h : ListRule listItem n other) (hn : HoldsItems n) :
    ListRule itemOf n other := by
  cases h with
  | list hname =>
      rw [List.map_congr_left fun child hchild =>
        listItem_eq_itemOf (hn _ _ _ rfl hname child hchild)]
      exact .list hname
  | other hother => exact .other hother

/-- The walk goes on below every node, and takes what is in the elements of a list. -/
theorem exists_into_judgeLists (n : Node) :
    ∃ other smaller, judgeLists n = .into other smaller ∧ ListRule listItem n other := by
  cases hlist : isList n with
  | true =>
      obtain ⟨name, attrs, children, rfl, hname⟩ := exists_of_isList hlist
      exact ⟨_, _, only_of hlist, .list (by simpa using hname)⟩
  | false => exact ⟨_, _, only_of_not hlist, (listRule_of_not hlist).2 rfl⟩

end Rule

theorem throughout_listItem (nodes : Forest) :
    Throughout (ListRule listItem) nodes (judgeLists.walk nodes) :=
  throughout_walk confined_judgeLists (p := fun _ => True) (fun _ => trivial)
    (fun n _ => exists_into_judgeLists n) fun _ _ => trivial

theorem length_walk_judgeLists (n : Node) : (judgeLists.walk [n]).length = 1 :=
  (throughout_listItem [n]).length_eq

/-! ## Counting what marks no item -/

/-- The node is no element that marks an item. -/
def marksNoItem (n : Node) : Bool :=
  !(n.kind = .element && n.name? = some "li")

theorem marksNoItem_refill (n : Node) (given : List Forest) :
    marksNoItem (n.refill given) = marksNoItem n := by
  simp [marksNoItem]

theorem countLive_itemOf (child : Node) :
    countLive marksNoItem (itemOf child) = countLive marksNoItem [child] := by
  unfold itemOf
  split
  · rw [countLive_singleton]
    simp [marksNoItem, Node.kind, Node.name?, Node.sequences]
  · rfl

theorem countLive_listItem_le (child : Node) :
    countLive marksNoItem (listItem child) ≤ countLive marksNoItem [child] := by
  cases child with
  | element name attrs children =>
      rw [countLive_singleton]
      simp [listItem, Node.sequences]
  | _ => exact Nat.le_refl _

theorem countLive_list {name : String} {attrs : Attributes} {children : Forest}
    (hname : name ∈ ["ul", "ol"]) (item : Node → Forest) :
    countLive marksNoItem [.list (name == "ol") (children.map item)] =
        1 + (children.map fun child => countLive marksNoItem (item child)).sum ∧
      countLive marksNoItem [.element name attrs children] =
        1 + (children.map fun child => countLive marksNoItem [child]).sum := by
  have hli : name ≠ "li" := by
    rintro rfl
    revert hname
    decide
  rw [countLive_singleton, countLive_singleton, ← countLive_eq_sum]
  simp [marksNoItem, Node.kind, Node.name?, Node.sequences, hli, Function.comp_def]

/-- Counts compare before and after as they do for a child and its item. -/
theorem countLive_of_items {item : Node → Forest} {R : Nat → Nat → Prop} (hR : AddsUp R)
    (hitem : ∀ child, R (countLive marksNoItem [child]) (countLive marksNoItem (item child)))
    {nodes made : Forest} (h : Throughout (ListRule item) nodes made) :
    R (countLive marksNoItem nodes) (countLive marksNoItem made) := by
  refine h.countLive_rel hR marksNoItem_refill ?_ (by simp)
  intro n other hrule
  cases hrule with
  | @list name attrs children hname =>
      obtain ⟨hlist, helement⟩ := @countLive_list name attrs children hname item
      rw [hlist, helement]
      refine hR.add (hR.refl 1) (hR.sum ?_)
      rw [List.forall₂_map_left_iff, List.forall₂_map_right_iff, List.forall₂_same]
      exact fun child _ => hitem child
  | other => exact hR.refl _

/-! ## Lists that come out as they should -/

/-- What is in an element that marks no item cannot stand for the element. -/
theorem not_throughout_inside {name : String} {attrs : Attributes} {children : Forest}
    (hname : name ≠ "li") :
    ¬ Throughout (ListRule itemOf) [.element name attrs children] (judgeLists.walk children) := by
  intro h
  have hcount := countLive_of_items addsUp_eq (fun child => (countLive_itemOf child).symm) h
  have hle := countLive_of_items addsUp_ge countLive_listItem_le (throughout_listItem children)
  rw [← hcount, countLive_singleton] at hle
  have hmarks : marksNoItem (.element name attrs children) = true := by
    simp [marksNoItem, Node.kind, Node.name?, hname]
  rw [if_pos hmarks, Node.sequences, List.map_singleton, List.sum_singleton] at hle
  omega

/-- Below a list that comes out as it should, nothing but the marks of items is left out. -/
theorem items_of_throughout {name : String} {attrs : Attributes} {children : Forest}
    (hname : name ∈ ["ul", "ol"])
    (h : Throughout (ListRule itemOf) [.element name attrs children]
      (judgeLists.walk [.element name attrs children])) :
    ∀ child ∈ children, (child.kind = .element → child.name? = some "li") ∧
      Throughout (ListRule itemOf) (listItem child) (judgeLists.walk (listItem child)) := by
  rw [walk_judgeLists (isList_element.2 hname)] at h
  have hbelow := (throughout_singleton (fun _ => listRule_element hname) (by simp [Node.sequences]))
    |>.1 h
  rw [List.map_map, Node.sequences, List.forall₂_map_left_iff, List.forall₂_map_right_iff,
    List.forall₂_same] at hbelow
  intro child hchild
  have hitem : Throughout (ListRule itemOf) (itemOf child) (judgeLists.walk (listItem child)) :=
    hbelow child hchild
  have hmarked : child.kind = .element → child.name? = some "li" := by
    intro hkind
    cases child with
    | element name attrs children =>
        by_contra hne
        have hli : name ≠ "li" := fun heq => hne (congrArg some heq)
        have hself : itemOf (.element name attrs children) = [.element name attrs children] := by
          simp [Stages.itemOf, hli]
        rw [hself] at hitem
        exact not_throughout_inside hli hitem
    | _ => cases hkind
  exact ⟨hmarked, by rwa [← listItem_eq_itemOf hmarked] at hitem⟩

/-- A mark of an item is no list, so only what is in it counts. -/
theorem everywhere_of_listItem {child : Node}
    (hmarked : child.kind = .element → child.name? = some "li")
    (h : Everywhere HoldsItems (listItem child)) : Everywhere HoldsItems [child] := by
  cases child with
  | element name attrs children =>
      obtain rfl : name = "li" := by simpa [Node.kind, Node.name?] using hmarked
      refine everywhere_singleton.2 ⟨?_, fun s hs => List.mem_singleton.1 hs ▸ h⟩
      rintro _ _ _ heq hname
      cases heq
      exact absurd hname (by decide)
  | _ => exact h

/-- A node that is no list of markup comes out as it should if all that is below it does. -/
theorem throughout_below {n : Node} (hlist : isList n = false) :
    Throughout (ListRule itemOf) [n] (judgeLists.walk [n]) ↔
      ∀ s ∈ n.sequences, Throughout (ListRule itemOf) s (judgeLists.walk s) :=
  throughout_walk_descend (only_of_not hlist) fun _ => listRule_of_not hlist

theorem holdsItems_of_throughout {nodes : Forest}
    (h : Throughout (ListRule itemOf) nodes (judgeLists.walk nodes)) :
    Everywhere HoldsItems nodes := by
  induction nodes using Node.weightAll_induction with
  | step nodes ih =>
  cases nodes with
  | nil => exact everywhere_nil
  | cons n rest =>
      obtain ⟨hn, hrest⟩ := (rewritten_walk_cons (length_walk_judgeLists n)).1 h
      refine everywhere_cons.2 ⟨?_, ih rest (Node.weightAll_lt_cons n rest) hrest⟩
      cases hlist : isList n with
      | true =>
          obtain ⟨name, attrs, children, rfl, hname⟩ := exists_of_isList hlist
          have hitems := items_of_throughout (by simpa using hname) hn
          refine everywhere_singleton.2 ⟨?_, ?_⟩
          · rintro _ _ _ heq _ child hchild
            cases heq
            exact (hitems child hchild).1
          · intro s hs
            obtain rfl := List.mem_singleton.1 hs
            refine everywhere_iff_forall_mem.2 fun child hchild => ?_
            obtain ⟨hmarked, hitem⟩ := hitems child hchild
            have hlighter : Node.weightAll (listItem child) <
                Node.weightAll (.element name attrs s :: rest) :=
              calc
                Node.weightAll (listItem child) ≤ child.weight := weightAll_listItem child
                _ ≤ Node.weightAll s := Node.weight_le_weightAll hchild
                _ < _ := Node.weightAll_lt_of_mem_sequences List.mem_cons_self hs
            exact everywhere_of_listItem hmarked (ih _ hlighter hitem)
      | false =>
          refine everywhere_singleton.2 ⟨?_, ?_⟩
          · rintro name attrs children rfl hname
            exact absurd hname (notMem_of_not_isList hlist)
          · intro s hs
            exact ih s (Node.weightAll_lt_of_mem_sequences List.mem_cons_self hs)
              ((throughout_below hlist).1 hn s hs)

theorem throughout_of_holdsItems {nodes : Forest} (h : Everywhere HoldsItems nodes) :
    Throughout (ListRule itemOf) nodes (judgeLists.walk nodes) := by
  refine throughout_walk confined_judgeLists (fun _ _ _ _ heq => by cases heq) ?_ h
  intro n hn
  obtain ⟨other, smaller, hinto, hrule⟩ := exists_into_judgeLists n
  exact ⟨other, smaller, hinto, hrule.itemOf hn⟩

/-- The stage never fails. It makes a list, ordered if the markup said so, of every list of markup
    that it reaches, with an item for each child, and leaves all else as it is. The items are what
    they should be, wherever they stand, exactly if no list has another element in it than marked
    items. -/
theorem lists_walk_items (ctx : Context) (nodes : Forest) :
    ∃ made, lists.walk ctx nodes = .done made ∧ Throughout (ListRule listItem) nodes made ∧
      (Throughout (ListRule itemOf) nodes made ↔ Everywhere HoldsItems nodes) :=
  ⟨judgeLists.walk nodes, walk_lists ctx nodes, throughout_listItem nodes,
    holdsItems_of_throughout, throughout_of_holdsItems⟩

/-- A list that stands in a list by itself is lost, and the mark of its item is left. -/
theorem lists_walk_bareList :
    let item : Node := .element "li" ∅ [.text "x"]
    let nodes : Forest := [.element "ul" ∅ [.element "ol" ∅ [item]]]
    (∀ ctx, lists.walk ctx nodes = .done [.list false [[item]]]) ∧
      Throughout (ListRule itemOf) nodes [.list false [[.list true [[.text "x"]]]]] ∧
      ¬ Throughout (ListRule itemOf) nodes [.list false [[item]]] := by
  intro item nodes
  have hitem : judgeLists.walk [item] = [item] := by
    refine walk_of_descend ?_
    simp [item, everywhere_singleton, Node.sequences, judgeLists, only, isList, Guard.passes_iff,
      Node.kind, Node.name?]
  have hwalk : judgeLists.walk nodes = [.list false [[item]]] := by
    rw [walk_judgeLists (isList_element.2 (by decide))]
    simp [listItem, hitem]
  refine ⟨?_, ?_, ?_⟩
  · intro ctx
    rw [walk_lists, hwalk]
  · have htext : Throughout (ListRule itemOf) [.text "x"] [.text "x"] :=
      rewritten_singleton.2 (.inl ⟨.text "x", [], .other (by simp), .nil, rfl⟩)
    have hinner : Throughout (ListRule itemOf) [.element "ol" ∅ [item]]
        [.list true [[.text "x"]]] :=
      rewritten_singleton.2 (.inl ⟨_, [[.text "x"]], .list (by decide), .cons htext .nil, rfl⟩)
    exact rewritten_singleton.2
      (.inl ⟨_, [[.list true [[.text "x"]]]], .list (by decide), .cons hinner .nil, rfl⟩)
  · rw [← hwalk]
    intro h
    have hholds := holdsItems_of_throughout h _ (.among (List.mem_singleton.2 rfl))
    have hmarked := hholds _ _ _ rfl (by decide) _ (List.mem_singleton.2 rfl) rfl
    revert hmarked
    decide

end ArticleTree.Stages
