import ArticleTree.Proofs.Article.Fragments
import ArticleTree.Proofs.Node.Prose

/-! # What an article tells of its markup

Converting plain markup, which is made of texts and of elements without attributes, neither
repeats nor moves a character of its texts. It loses those that stand in a table beside a body
that is its first child, and no others.
-/

namespace ArticleTree

open Judgement Stages

/-! ## Simple markup -/

/-- A text, or an element without attributes that is no heading of a level that is not
    allowed. -/
def Simple : Node → Prop
  | .text _ => True
  | .element name attrs _ => attrs = ∅ ∧ name ∉ ["h1", "h4", "h5", "h6"]
  | _ => False

/-- What stands in a table beside its body, if the body comes first. -/
def besideBody : Forest → Forest
  | .element "tbody" _ _ :: rest => rest
  | _ => []

/-- The nodes inside an element that an article goes on with. A list takes what is in each of its
    children, and a table what is in its body. -/
def kept (name : String) (children : Forest) : Forest :=
  if name ∈ ["ul", "ol"] then children.flatMap listItem
  else if name = "table" then tableRows children
  else children

/-- Nothing is told beside the body of a table that an article comes upon. -/
inductive Whole : Node → Prop where
  | text {data : String} : Whole (.text data)
  | element {name : String} {attrs : Attributes} {children : Forest} :
      (name = "table" → proseOf (besideBody children) = []) →
      (∀ n ∈ kept name children, Whole n) → Whole (.element name attrs children)

theorem whole_element {name : String} {attrs : Attributes} {children : Forest} :
    Whole (.element name attrs children) ↔
      (name = "table" → proseOf (besideBody children) = []) ∧
        ∀ n ∈ kept name children, Whole n := by
  constructor
  · rintro (_ | ⟨hbeside, hkept⟩)
    exact ⟨hbeside, hkept⟩
  · rintro ⟨hbeside, hkept⟩
    exact .element hbeside hkept

/-- Without attributes, only lists and tables are claimed. -/
theorem claim?_simple (name : String) (children : Forest) :
    claim? (.element name ∅ children) =
      if name ∈ ["ul", "ol"] then some .list
      else if name = "table" then some .table
      else none := by
  have hattr (key : String) : (Node.element name ∅ children).attr? key = none := rfl
  have hkind : (Node.element name ∅ children).kind = .element := rfl
  have hname : (Node.element name ∅ children).name? = some name := rfl
  have hlist : isList (.element name ∅ children) = decide (name ∈ ["ul", "ol"]) := by
    rw [Bool.eq_iff_iff, isList, Guard.passes_iff]
    simp [hkind, hname]
  have htable : isTable (.element name ∅ children) = decide (name = "table") := by
    rw [Bool.eq_iff_iff, isTable, Guard.passes_iff]
    simp [hkind, hname]
  have hfigure : isFigure (.element name ∅ children) = false := by
    simp [isFigure, Bool.eq_false_iff, Guard.passes_iff, hattr]
  have hinline : isInlineFigure (.element name ∅ children) = false := by
    simp [isInlineFigure, Bool.eq_false_iff, Guard.passes_iff, hattr]
  have hmath : isMath (.element name ∅ children) = false := by
    simp [isMath, Bool.eq_false_iff, Guard.passes_iff, hattr]
  simp only [claim?, hlist, hfigure, hinline, htable, hmath, decide_eq_true_eq, Bool.false_eq_true,
    if_false]

theorem proseOf_listItem (n : Node) : proseOf (listItem n) = n.prose := by
  cases n <;> simp [listItem, Node.prose]

theorem proseOf_flatMap_listItem (children : Forest) :
    proseOf (children.flatMap listItem) = proseOf children := by
  induction children with
  | nil => rfl
  | cons n rest ih => rw [List.flatMap_cons, proseOf_append, proseOf_listItem, ih, proseOf_cons]

theorem proseOf_tableRows {children : Forest} (h : ∀ n ∈ children, Simple n) :
    proseOf children = proseOf (tableRows children) ++ proseOf (besideBody children) := by
  unfold tableRows
  split
  · rfl
  · exact absurd (h _ List.mem_cons_self) id
  · rename_i hbody _
    have hbeside : besideBody children = [] := by
      unfold besideBody
      split
      · exact absurd rfl (hbody _ _ _)
      · rfl
    rw [hbeside, proseOf_nil, List.append_nil]

section Kept

variable {name : String} {attrs : Attributes} {children : Forest}

theorem proseOf_kept (h : ∀ n ∈ children, Simple n) :
    (proseOf (kept name children)).Sublist (proseOf children) ∧
      (proseOf (kept name children) = proseOf children ↔
        (name = "table" → proseOf (besideBody children) = [])) := by
  unfold kept
  split
  · rename_i hlist
    have hname : name ≠ "table" := by
      rintro rfl
      exact absurd hlist (by decide)
    rw [proseOf_flatMap_listItem]
    simp [hname]
  · split
    · rename_i htable
      rw [proseOf_tableRows h]
      simp [htable]
    · rename_i htable
      simp [htable]

theorem weightAll_flatMap_listItem (children : Forest) :
    Node.weightAll (children.flatMap listItem) ≤ Node.weightAll children := by
  induction children with
  | nil => exact Nat.le_refl _
  | cons n rest ih =>
      have := weightAll_listItem n
      rw [List.flatMap_cons, Node.weightAll_append]
      simp only [Node.weightAll]
      omega

theorem part_kept : Part (kept name children) (.element name attrs children) := by
  unfold kept
  split
  · refine part_of_children (weightAll_flatMap_listItem children) ?_
    intro m hm
    obtain ⟨child, hchild, hm⟩ := List.mem_flatMap.1 hm
    exact live_of_mem_listItem hchild hm
  · split
    · exact part_tableRows
    · exact part_of_children (Nat.le_refl _) fun _ => .among

end Kept

/-! ## What becomes of simple markup -/

section Simple

variable {strip : Bool}

theorem staged_flatMap (place : Place) (f : Node → Forest) (nodes : Forest) :
    staged strip place (nodes.flatMap f) = nodes.flatMap fun n => staged strip place (f n) := by
  induction nodes with
  | nil => simp
  | cons n rest ih => rw [List.flatMap_cons, staged_append, ih, List.flatMap_cons]

theorem headingLevel?_simple {name : String} {level : UInt8}
    (hname : name ∉ ["h1", "h4", "h5", "h6"]) (hlevel : headingLevel? name = some level) :
    level = 2 ∨ level = 3 := by
  unfold headingLevel? at hlevel
  split at hlevel <;> simp_all

/-- There is no anchor for a heading to find. -/
theorem anchorOf?_simple {nodes : Forest} (h : ∀ n ∈ nodes, Simple n) (place : Place) :
    (staged strip place nodes).getLast?.bind anchorOf? = none := by
  cases nodes using List.reverseRec with
  | nil => simp
  | append_singleton before last =>
      have hsimple : Simple last := h last (by simp)
      have hlast : ∃ m, staged strip place [last] = [m] ∧ m.kind ≠ .template := by
        cases last with
        | text data => exact ⟨_, staged_text data, by simp [Node.kind]⟩
        | element name attrs children =>
            obtain ⟨rfl, _⟩ := hsimple
            obtain ⟨m, hm, hkind⟩ := @exists_staged name ∅ children strip place
              (.inl fun _ => isFragment_bare name children)
            exact ⟨m, hm, fun htemplate => hkind (by simp [htemplate])⟩
        | _ => cases hsimple
      obtain ⟨m, hm, hkind⟩ := hlast
      rw [staged_append, hm, List.getLast?_concat]
      exact anchorOf?_of_kind hkind

section Element

variable {name : String} {children : Forest} {place : Place}

theorem proseOf_staged_unclaimed (hname : name ∉ ["h1", "h4", "h5", "h6"])
    (hchildren : ∀ n ∈ children, Simple n) (hclaim : claim? (.element name ∅ children) = none) :
    ∃ below, proseOf (staged strip place [.element name ∅ children]) =
      proseOf (staged strip below children) := by
  rw [staged_element hclaim fun _ => isFragment_bare name children]
  by_cases hplace : place = .source
  · subst hplace
    refine ⟨.source, ?_⟩
    rw [late_source]
    simp [Node.prose, staged]
  · cases hblock : blockOfName? name with
    | some b =>
        refine ⟨place, ?_⟩
        rw [late_block hblock hplace]
        simp [Node.prose, staged]
    | none =>
        cases hlevel : headingLevel? name with
        | none =>
            refine ⟨.source, ?_⟩
            rw [late_unknown hblock hlevel hplace]
            simp [Node.prose, staged]
        | some level =>
            have hallowed := headingLevel?_simple hname hlevel
            refine ⟨place, ?_⟩
            cases place with
            | source => exact absurd rfl hplace
            | heading =>
                rw [late_heading_heading hblock hlevel hallowed]
                simp [Node.prose, staged]
            | article =>
                have hanchor := @anchorOf?_simple strip children hchildren .heading
                rw [staged] at hanchor
                rw [late_article_heading hblock hlevel hallowed, headed_of_none hanchor,
                  proseOf_cons, proseOf_nil, List.append_nil]
                rfl

/-- What becomes of a simple element tells what the kept nodes become. -/
theorem proseOf_staged_simple (hname : name ∉ ["h1", "h4", "h5", "h6"])
    (hchildren : ∀ n ∈ children, Simple n) :
    ∃ below, proseOf (staged strip place [.element name ∅ children]) =
      proseOf (staged strip below (kept name children)) := by
  have hclaim := claim?_simple name children
  unfold kept
  split at hclaim
  · rename_i hlist
    refine ⟨place, ?_⟩
    rw [if_pos hlist, staged_list hclaim, staged_flatMap, List.flatMap_def, ← proseOfItems_eq]
    simp [Node.prose]
  · rename_i hlist
    rw [if_neg hlist]
    split at hclaim
    · rename_i htable
      refine ⟨place, ?_⟩
      rw [if_pos htable, staged_table hclaim]
      simp [Node.prose]
    · rename_i htable
      rw [if_neg htable]
      exact proseOf_staged_unclaimed hname hchildren hclaim

end Element

end Simple

/-! ## Sequences -/

/-- What becomes of the nodes tells no more than they did, and all that they did exactly if they
    are whole. -/
structure Retold (strip : Bool) (place : Place) (nodes : Forest) : Prop where
  sublist : (proseOf (staged strip place nodes)).Sublist (proseOf nodes)
  whole : proseOf (staged strip place nodes) = proseOf nodes ↔ ∀ n ∈ nodes, Whole n

theorem append_eq_append_iff_of_sublist {α : Type} {xs xs' ys ys' : List α} (hx : xs.Sublist xs')
    (hy : ys.Sublist ys') : xs ++ ys = xs' ++ ys' ↔ xs = xs' ∧ ys = ys' := by
  constructor
  · intro h
    have hlength := congrArg List.length h
    have hxlength := hx.length_le
    have hylength := hy.length_le
    simp only [List.length_append] at hlength
    exact List.append_inj h (by omega)
  · rintro ⟨rfl, rfl⟩
    rfl

section Retold

variable {strip : Bool} {place : Place}

theorem Retold.cons {n : Node} {rest : Forest} (hn : Retold strip place [n])
    (hrest : Retold strip place rest) : Retold strip place (n :: rest) := by
  have hnode : proseOf [n] = n.prose := by simp
  have hsublist := hn.sublist
  have hwhole := hn.whole
  rw [hnode] at hsublist hwhole
  constructor
  · rw [staged_cons, proseOf_append, proseOf_cons]
    exact hsublist.append hrest.sublist
  · rw [staged_cons, proseOf_append, proseOf_cons,
      append_eq_append_iff_of_sublist hsublist hrest.sublist, hwhole, hrest.whole,
      List.forall_mem_cons]
    simp

theorem Retold.element {name : String} {children : Forest}
    (hname : name ∉ ["h1", "h4", "h5", "h6"]) (hchildren : ∀ n ∈ children, Simple n)
    (ih : ∀ below, Retold strip below (kept name children)) :
    Retold strip place [.element name ∅ children] := by
  obtain ⟨below, hbelow⟩ := @proseOf_staged_simple strip name children place hname hchildren
  obtain ⟨hkept, hbeside⟩ := @proseOf_kept name children hchildren
  obtain ⟨hsublist, hwhole⟩ := ih below
  have hnode : proseOf [.element name ∅ children] = proseOf children := by simp [Node.prose]
  constructor
  · rw [hbelow, hnode]
    exact hsublist.trans hkept
  · rw [hbelow, hnode, List.forall_mem_singleton, whole_element, ← hbeside, ← hwhole]
    constructor
    · intro hsame
      have hfull : proseOf (kept name children) = proseOf children :=
        hkept.antisymm (hsame ▸ hsublist)
      exact ⟨hfull, hsame.trans hfull.symm⟩
    · rintro ⟨hfull, hsame⟩
      exact hsame.trans hfull

theorem retold_of_simple {nodes : Forest} (h : Everywhere Simple nodes) (place : Place) :
    Retold strip place nodes := by
  -- By weight, since the kept nodes of a list stand one level below its children.
  induction nodes using Node.weightAll_induction generalizing place with
  | step nodes ih =>
  cases nodes with
  | nil => exact ⟨by simp, by simp⟩
  | cons n rest =>
      obtain ⟨hn, hrest⟩ := everywhere_cons.1 h
      obtain ⟨hself, hbelow⟩ := everywhere_singleton.1 hn
      have hnode : Retold strip place [n] := by
        cases n with
        | text data => exact ⟨by simp [staged_text], by simp [staged_text, Whole.text]⟩
        | element name attrs children =>
            obtain ⟨rfl, hname⟩ := hself
            have hchildren := hbelow children (List.mem_singleton.2 rfl)
            have hpart : Part (kept name children) (.element name ∅ children) := part_kept
            refine .element hname (fun m hm => hchildren m (.among hm)) fun below => ?_
            refine ih _ ?_ (everywhere_of_live hpart.live (fun _ => trivial) hn) below
            exact Nat.lt_of_lt_of_le hpart.lighter (Node.weight_le_weightAll List.mem_cons_self)
        | _ => cases hself
      exact hnode.cons (ih rest (Node.weightAll_lt_cons n rest) hrest place)

end Retold

/-- Plain markup, of texts and elements without attributes, is always converted, and the article
    tells part of the characters that the markup told, in their order. It tells all of them
    exactly if nothing is told beside the bodies of tables. -/
theorem Article.prose_of_convert (options : Options) (ctx : Context) {nodes : Forest}
    (h : Everywhere Simple nodes) :
    ∃ article, Article.convert options ctx nodes = .done article ∧
      (proseOf article).Sublist (proseOf nodes) ∧
      (proseOf article = proseOf nodes ↔ ∀ n ∈ nodes, Whole n) := by
  obtain ⟨hsublist, hwhole⟩ := @retold_of_simple options.stripFragments nodes h .article
  rw [← conversion_eq_staged] at hsublist hwhole
  exact ⟨_, convert_eq options ctx nodes, hsublist, hwhole⟩

/-- A heading, a list with an element that nobody knows, and a table with a body. -/
def headedListAndTable : Forest :=
  [.element "h2" ∅ [.text "T"],
    .element "ul" ∅ [.text "a", .element "li" ∅ [.element "div" ∅ [.text "b"]]],
    .element "table" ∅ [.element "tbody" ∅ [.element "tr" ∅ [.element "td" ∅ [.text "c"]]]]]

theorem Article.prose_of_convert_headedListAndTable :
    Everywhere Simple headedListAndTable ∧ (∀ n ∈ headedListAndTable, Whole n) ∧
      ∃ article,
        Article.convert { stripFragments := true } ⟨"Title", 0⟩ headedListAndTable =
            .done article ∧
          proseOf article = proseOf headedListAndTable := by
  have hsimple : Everywhere Simple headedListAndTable := by
    simp [headedListAndTable, everywhere_cons_cons, everywhere_singleton, Simple, Node.sequences]
  have hwhole : ∀ n ∈ headedListAndTable, Whole n := by
    simp [headedListAndTable, whole_element, kept, listItem, tableRows, besideBody, Whole.text]
  obtain ⟨article, hdone, _, hsame⟩ :=
    Article.prose_of_convert { stripFragments := true } ⟨"Title", 0⟩ hsimple
  exact ⟨hsimple, hwhole, article, hdone, hsame.2 hwhole⟩

/-- A table with a body and a foot. -/
def footedTable : Forest :=
  [.element "table" ∅
    [.element "tbody" ∅ [.element "tr" ∅ [.element "td" ∅ [.text "a"]]],
      .element "tfoot" ∅ [.element "tr" ∅ [.element "td" ∅ [.text "b"]]]]]

/-- The foot of a table is lost. -/
theorem Article.prose_of_convert_footedTable :
    Everywhere Simple footedTable ∧
      Article.convert {} ⟨"Title", 0⟩ footedTable =
        .done [.block .table [.block .row [.block .cell [.text "a"]]]] ∧
      proseOf [.block .table [.block .row [.block .cell [.text "a"]]]] ≠ proseOf footedTable := by
  have block {name : String} {b : Block} (children : Forest)
      (hclaim : claim? (.element name ∅ children) = none) (hblock : blockOfName? name = some b) :
      staged false .article [.element name ∅ children] =
        [.block b (staged false .article children)] := by
    rw [staged_element hclaim fun _ => isFragment_bare name children,
      late_block hblock (by decide), staged]
  refine ⟨?_, ?_, by decide⟩
  · simp [footedTable, everywhere_cons_cons, everywhere_singleton, Simple, Node.sequences]
  · rw [convert_eq, conversion_eq_staged, footedTable, staged_table (by decide), tableRows,
      block _ (by decide) rfl, block _ (by decide) rfl, staged_text]

end ArticleTree
