import ArticleTree.Proofs.Article.Stripping
import ArticleTree.Proofs.Stages.Numbering

/-! # Lists that a macro makes

A list has an item for each number from one on, up to the first that is missing. What is given
beside these numbers leaves no trace.
-/

namespace ArticleTree

open Stages

variable {options : Options} {params : List (String × Param)}

/-! ## The parameters after merging -/

theorem itemParams_mergeFamily :
    itemParams (mergeFamily "item" params) = numberedValues "item" params := by
  have hlist : Keyed.get? "item_list" (mergeFamily "item" params) =
      some (.list (numberedValues "item" params)) := by
    rw [mergeFamily]
    exact (Keyed.get?_insert ..).trans (if_pos rfl)
  rw [itemParams, hlist]

theorem ne_numberedKey {key : String} (h : ¬ "item".toList <+: key.toList) (number : Nat) :
    key ≠ numberedKey "item" number := by
  rintro rfl
  rw [numberedKey, String.toList_append] at h
  exact h (List.prefix_append _ _)

theorem get?_type_mergeFamily :
    Keyed.get? "type" (mergeFamily "item" params) = Keyed.get? "type" params := by
  rw [mergeFamily]
  refine (Keyed.get?_insert ..).trans ((if_neg (by decide)).trans ?_)
  exact get?_takeNumbered (ne_numberedKey (by decide))

/-- The parameter asks for a list with numbers. -/
def asksOrdered (params : List (String × Param)) : Bool :=
  (Node.template "Liste" params).textParam? "type" == some "ol"

theorem asksOrdered_iff :
    asksOrdered params = true ↔ Keyed.get? "type" params = some (.text "ol") := by
  rw [asksOrdered, beq_iff_eq, Node.textParam?]
  cases Keyed.get? "type" params with
  | none => simp
  | some value => cases value <;> simp [Param.text?]

theorem asksOrdered_mergeFamily : asksOrdered (mergeFamily "item" params) = asksOrdered params := by
  rw [Bool.eq_iff_iff, asksOrdered_iff, asksOrdered_iff, get?_type_mergeFamily]

/-! ## The list -/

theorem conversion_text (data : String) : conversion options [.text data] = [.text data] := by
  rw [conversion_eq_staged, staged_text]

/-- The merged values are converted by themselves. -/
theorem conversion_liste :
    conversion options [.template "Liste" params] =
      [.list (asksOrdered params)
        ((numberedValues "item" params).map fun value =>
          conversion options value.toForest)] := by
  have hmerged : merged "Liste" params = .template "Liste" (mergeFamily "item" params) := rfl
  simp only [conversion_eq_staged]
  rw [staged_template, hmerged,
    late_liste_refill ((distributes_pruneIf options.stripFragments).comp distributes_early),
    itemParams_mergeFamily, ← asksOrdered, asksOrdered_mergeFamily]
  rfl

/-- A list macro becomes a list. Its items are what becomes of the numbered parameters, in the
    order of their numbers, and there are as many as numbers from one on without a gap. -/
theorem Article.convert_liste (options : Options) (ctx : Context)
    (params : List (String × Param)) :
    ∃ ordered items,
      Article.convert options ctx [.template "Liste" params] = .done [.list ordered items] ∧
      (ordered = true ↔ Keyed.get? "type" params = some (.text "ol")) ∧
      IsGreatest {k | ∀ i, 1 ≤ i → i ≤ k → (Keyed.get? (numberedKey "item" i) params).isSome}
        items.length ∧
      ∀ i value, 1 ≤ i → i ≤ items.length →
        Keyed.get? (numberedKey "item" i) params = some value →
        ∃ item, items[i - 1]? = some item ∧
          Article.convert options ctx value.toForest = .done item := by
  refine ⟨_, _, (convert_eq options ctx _).trans (congrArg Session.done conversion_liste),
    asksOrdered_iff, ?_, ?_⟩
  · rw [List.length_map]
    exact isGreatest_length
  · intro i value hone hle hget
    rw [List.length_map] at hle
    have hvalue := (reached_iff.2 ⟨hone, hle⟩).getElem?
    refine ⟨_, ?_, convert_eq options ctx _⟩
    rw [List.getElem?_map, hvalue, hget]
    rfl

/-- Ten items, in the order of their keys. -/
def tenItems : List (String × Param) :=
  [("item1", .text "first"), ("item10", .text "last"), ("item2", .text ""), ("item3", .text ""),
    ("item4", .text ""), ("item5", .text ""), ("item6", .text ""), ("item7", .text ""),
    ("item8", .text ""), ("item9", .text ""), ("type", .text "ol")]

theorem Article.convert_liste_tenItems :
    ∃ items,
      Article.convert {} ⟨"Title", 0⟩ [.template "Liste" tenItems] = .done [.list true items] ∧
      items.length = 10 ∧ items[9]? = some [.text "last"] := by
  obtain ⟨ordered, items, hconvert, hordered, hgreatest, hitems⟩ :=
    Article.convert_liste {} ⟨"Title", 0⟩ tenItems
  obtain rfl := hordered.2 rfl
  have hlength : items.length = 10 := by
    apply hgreatest.unique
    constructor
    · have hgiven : ∀ i < 11, 1 ≤ i →
          (Keyed.get? (numberedKey "item" i) tenItems).isSome = true := by decide
      intro i hone hle
      exact hgiven i (by omega) hone
    · intro k hk
      by_contra hbeyond
      exact absurd (hk 11 (by omega) (by omega)) (by decide)
  obtain ⟨item, hlast, hdone⟩ := hitems 10 (.text "last") (by omega) (by omega) rfl
  have hitem : [.text "last"] = item := by
    have htext := @conversion_text {} "last"
    exact htext ▸ Session.done.inj ((convert_eq ..).symm.trans hdone)
  exact ⟨items, hconvert, hlength, hitem ▸ hlast⟩

/-! ## Texts that come through -/

/-- The node has the text in it, or marks that there is something that is not modelled. -/
def Tells (data : String) (n : Node) : Prop :=
  (∃ given, n = .text given ∧ data.toList <:+: given.toList) ∨
    n.kind = .error ∨ n.kind = .notImplemented

/-- The article has the text in it somewhere, or such a mark. -/
def Surfaces (data : String) (article : Forest) : Prop :=
  ∃ n, Live n article ∧ Tells data n

theorem surfaces_text (data : String) : Surfaces data [.text data] :=
  ⟨_, .among (List.mem_singleton.2 rfl), .inl ⟨data, rfl, List.infix_rfl⟩⟩

theorem surfaces_list {data : String} {ordered : Bool} {items : List Forest} :
    Surfaces data [.list ordered items] ↔ ∃ item ∈ items, Surfaces data item := by
  constructor
  · rintro ⟨n, hlive, htells⟩
    cases hlive with
    | among hn =>
        obtain rfl := List.mem_singleton.1 hn
        rcases htells with ⟨_, heq, _⟩ | hkind | hkind
        · cases heq
        · cases hkind
        · cases hkind
    | inside hm hitem hn =>
        obtain rfl := List.mem_singleton.1 hm
        exact ⟨_, hitem, n, hn, htells⟩
  · rintro ⟨item, hitem, n, hn, htells⟩
    exact ⟨n, .inside (List.mem_singleton.2 rfl) hitem hn, htells⟩

/-- An item whose number is reached comes through, and one whose number is not makes no
    difference: a text is told by the article exactly if it is told by an item that is reached. -/
theorem Article.surfaces_of_liste (options : Options) (ctx : Context)
    {params : List (String × Param)} {key data : String} (hkey : "item".toList <+: key.toList)
    (hget : Keyed.get? key params = some (.content [.text data])) :
    ∃ article, Article.convert options ctx [.template "Liste" params] = .done article ∧
      (Surfaces data article ↔
        ∃ number value item, Reached "item" params number ∧
          Keyed.get? (numberedKey "item" number) params = some value ∧
          Article.convert options ctx value.toForest = .done item ∧ Surfaces data item) ∧
      ((∃ number, Reached "item" params number ∧ key = numberedKey "item" number) →
        Surfaces data article) ∧
      ((∀ number, Reached "item" params number → key ≠ numberedKey "item" number) →
        Article.convert options ctx [.template "Liste" (Keyed.erase key params)] =
          .done article) := by
  have htold : Surfaces data (conversion options [.template "Liste" params]) ↔
      ∃ number value item, Reached "item" params number ∧
        Keyed.get? (numberedKey "item" number) params = some value ∧
        Article.convert options ctx value.toForest = .done item ∧ Surfaces data item := by
    rw [conversion_liste, surfaces_list]
    constructor
    · rintro ⟨item, hitem, hsurfaces⟩
      obtain ⟨value, hvalue, rfl⟩ := List.mem_map.1 hitem
      obtain ⟨number, hreached, hgiven⟩ := mem_numberedValues.1 hvalue
      exact ⟨number, value, _, hreached, hgiven, convert_eq options ctx _, hsurfaces⟩
    · rintro ⟨number, value, item, hreached, hgiven, hconvert, hsurfaces⟩
      rw [convert_eq] at hconvert
      obtain rfl := Session.done.inj hconvert
      exact ⟨_, List.mem_map.2 ⟨value, mem_numberedValues.2 ⟨number, hreached, hgiven⟩, rfl⟩,
        hsurfaces⟩
  refine ⟨_, convert_eq options ctx _, htold, ?_, ?_⟩
  · rintro ⟨number, hreached, rfl⟩
    refine htold.2 ⟨number, _, _, hreached, hget, convert_eq options ctx _, ?_⟩
    rw [Param.toForest, conversion_text]
    exact surfaces_text data
  · intro hbeside
    have htype : asksOrdered (Keyed.erase key params) = asksOrdered params := by
      have hne : key ≠ "type" := by
        rintro rfl
        exact absurd hkey (by decide)
      rw [Bool.eq_iff_iff, asksOrdered_iff, asksOrdered_iff, Keyed.get?_erase, if_neg hne]
    rw [convert_eq, conversion_liste, conversion_liste, htype, numberedValues_erase hbeside]

/-- A list whose second item is missing. -/
def gappedList : List (String × Param) :=
  [("item1", .content [.text "a"]), ("item3", .content [.text "c"])]

theorem Article.surfaces_of_liste_gapped :
    "item".toList <+: "item1".toList ∧
      Keyed.get? "item1" gappedList = some (.content [.text "a"]) ∧
      ∃ article, Article.convert {} ⟨"Title", 0⟩ [.template "Liste" gappedList] = .done article ∧
        Surfaces "a" article := by
  have hkey : "item".toList <+: "item1".toList := by decide
  have hget : Keyed.get? "item1" gappedList = some (.content [.text "a"]) := rfl
  obtain ⟨article, hconvert, _, hreached, _⟩ :=
    Article.surfaces_of_liste {} ⟨"Title", 0⟩ hkey hget
  refine ⟨hkey, hget, article, hconvert, hreached ⟨1, ⟨Nat.le_refl 1, ?_⟩, rfl⟩⟩
  intro i hone hle
  obtain rfl : i = 1 := by omega
  rfl

/-- What comes after the gap is gone without a mark. -/
theorem Article.not_surfaces_of_liste_gapped :
    "item".toList <+: "item3".toList ∧
      Keyed.get? "item3" gappedList = some (.content [.text "c"]) ∧
      Article.convert {} ⟨"Title", 0⟩ [.template "Liste" gappedList] =
        .done [.list false [[.text "a"]]] ∧
      ¬ Surfaces "c" [.list false [[.text "a"]]] := by
  refine ⟨by decide, rfl, ?_, ?_⟩
  · rw [convert_eq, conversion_liste]
    have hvalues : numberedValues "item" gappedList = [.content [.text "a"]] := rfl
    rw [hvalues, List.map_singleton, Param.toForest, conversion_text]
    rfl
  · rw [surfaces_list]
    rintro ⟨item, hitem, n, hlive, htells⟩
    obtain rfl := List.mem_singleton.1 hitem
    have heverywhere : Everywhere (fun n => ¬ Tells "c" n) [.text "a"] := by
      rw [everywhere_singleton]
      refine ⟨?_, fun s hs => nomatch hs⟩
      rintro (⟨given, heq, hinfix⟩ | hkind | hkind)
      · cases heq
        revert hinfix
        decide
      · cases hkind
      · cases hkind
    exact heverywhere n hlive htells

end ArticleTree
