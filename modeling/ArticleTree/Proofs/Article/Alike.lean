import ArticleTree.Proofs.Article.Remains
import Mathlib.Data.List.Induction

/-! # When both orders of removal agree

Whether they agree on a sequence is seen node by node, and on a node by the sequences that are
kept of it.
-/

namespace ArticleTree

open Judgement Stages

/-- Taking fragments out in the middle leaves what taking them out before leaves. -/
def Alike (place : Place) (nodes : Forest) : Prop :=
  staged true place nodes = staged false place (prune nodes)

variable {place : Place}

@[simp] theorem alike_nil : Alike place [] := by
  simp [Alike]

theorem alike_text (data : String) : Alike place [.text data] := by
  rw [Alike, staged_text, prune_text, staged_text]

theorem staged_prune_cons (n : Node) (rest : Forest) :
    staged false place (prune (n :: rest)) =
      staged false place (prune [n]) ++ staged false place (prune rest) := by
  rw [prune_cons, staged_append]

/-- Fragments that survive only make the result longer. -/
theorem length_staged_prune {nodes : Forest} (h : ∀ n ∈ nodes, Unconverted n) :
    (staged false place (prune nodes)).length ≤ (staged true place nodes).length := by
  induction nodes with
  | nil => simp
  | cons n rest ih =>
      have hrest := ih fun m hm => h m (List.mem_cons_of_mem _ hm)
      rw [staged_cons, staged_prune_cons, List.length_append, List.length_append]
      cases remains (h n List.mem_cons_self) place with
      | vanished _ hstripped hplain => simpa [hstripped, hplain] using hrest
      | survived x _ _ hstripped hplain =>
          simp only [hstripped, hplain, List.length_nil, List.length_singleton]
          omega
      | kept x y _ _ hstripped hplain =>
          simp only [hstripped, hplain, List.length_singleton]
          omega

theorem alike_cons {n : Node} {rest : Forest} (hn : Unconverted n)
    (hrest : ∀ m ∈ rest, Unconverted m) :
    Alike place (n :: rest) ↔ Alike place [n] ∧ Alike place rest := by
  have hlength := @length_staged_prune place rest hrest
  unfold Alike
  rw [staged_cons, staged_prune_cons]
  cases remains hn place with
  | vanished _ hstripped hplain => simp [hstripped, hplain]
  | survived x _ _ hstripped hplain =>
      simp only [hstripped, hplain, List.nil_append, List.singleton_append, List.cons_ne_nil,
        false_and, iff_false]
      intro heq
      rw [← heq, List.length_cons] at hlength
      omega
  | kept x y _ _ hstripped hplain => simp [hstripped, hplain]

theorem alike_iff_forall_mem {nodes : Forest} (h : ∀ n ∈ nodes, Unconverted n) :
    Alike place nodes ↔ ∀ n ∈ nodes, Alike place [n] := by
  induction nodes with
  | nil => simp
  | cons n rest ih =>
      have hrest : ∀ m ∈ rest, Unconverted m := fun m hm => h m (List.mem_cons_of_mem _ hm)
      rw [alike_cons (h n List.mem_cons_self) hrest, ih hrest, List.forall_mem_cons]

/-! ## Nodes that vanish -/

/-- The nodes that leave something behind. -/
def lasting (nodes : Forest) : Forest :=
  nodes.filter fun n => ¬ Vanishes n

theorem not_vanishes_of_mem {nodes : Forest} {n : Node} (h : n ∈ lasting nodes) : ¬ Vanishes n :=
  of_decide_eq_true (List.mem_filter.1 h).2

theorem Vanishes.remains {n : Node} (h : Vanishes n) (hn : Unconverted n) (place : Place) :
    staged true place [n] = [] ∧ staged false place (prune [n]) = [] := by
  cases ArticleTree.remains hn place with
  | vanished _ hstripped hplain => exact ⟨hstripped, hplain⟩
  | survived x _ hvanishes => exact absurd h hvanishes
  | kept x y _ hvanishes => exact absurd h hvanishes

theorem staged_lasting {nodes : Forest} (h : ∀ n ∈ nodes, Unconverted n) :
    staged true place (lasting nodes) = staged true place nodes ∧
      staged false place (prune (lasting nodes)) = staged false place (prune nodes) := by
  induction nodes with
  | nil => exact ⟨rfl, rfl⟩
  | cons n rest ih =>
      obtain ⟨hstripped, hplain⟩ := ih fun m hm => h m (List.mem_cons_of_mem _ hm)
      rw [staged_cons, staged_prune_cons, ← hstripped, ← hplain]
      by_cases hvanishes : Vanishes n
      · obtain ⟨hs, hp⟩ := hvanishes.remains (h n List.mem_cons_self) place
        have hlasting : lasting (n :: rest) = lasting rest := by simp [lasting, hvanishes]
        simp [hlasting, hs, hp]
      · have hlasting : lasting (n :: rest) = n :: lasting rest := by simp [lasting, hvanishes]
        rw [hlasting, staged_cons, staged_prune_cons]
        exact ⟨rfl, rfl⟩

theorem alike_lasting {nodes : Forest} (h : ∀ n ∈ nodes, Unconverted n) :
    Alike place (lasting nodes) ↔ Alike place nodes := by
  obtain ⟨hstripped, hplain⟩ := @staged_lasting place nodes h
  unfold Alike
  rw [hstripped, hplain]

/-! ## Elements that a stage claims -/

section Elements

variable {name : String} {attrs : Attributes} {children : Forest}

/-- Taking fragments out of a child that stays takes them out of its item. -/
theorem listItem_prune (c : Node) :
    listItem (c.refill (c.sequences.map prune)) = prune (listItem c) := by
  by_cases helement : c.kind = .element
  · cases c with
    | element => rfl
    | _ => cases helement
  · rw [listItem_of_kind helement, listItem_of_kind (by rwa [Node.kind_refill]),
      prune_of_kind helement]

theorem alike_list (hfragment : isFragment (.element name attrs children) = false)
    (hclaim : claim? (.element name attrs children) = some .list) :
    Alike place [.element name attrs children] ↔
      (∀ c ∈ children, isFragment c = false) ∧ ∀ c ∈ children, Alike place (listItem c) := by
  have hclaim' : claim? (.element name attrs (prune children)) = some .list :=
    (claim?_element ..).trans hclaim
  unfold Alike
  rw [prune_element hfragment, staged_list hclaim, staged_list hclaim']
  simp only [List.cons.injEq, Node.list.injEq, true_and, and_true]
  have hitems (hc : ∀ c ∈ children, isFragment c = false) :
      (prune children).map (fun c => staged false place (listItem c)) =
        children.map fun c => staged false place (prune (listItem c)) := by
    rw [prune_eq_map hc, List.map_map]
    exact List.map_congr_left fun c _ => congrArg (staged false place) (listItem_prune c)
  constructor
  · intro heq
    have hlength : (prune children).length = children.length := by
      simpa using (congrArg List.length heq).symm
    have hc := length_prune.2 hlength
    rw [hitems hc, List.map_inj_left] at heq
    exact ⟨hc, heq⟩
  · rintro ⟨hc, heq⟩
    rw [hitems hc, List.map_inj_left]
    exact heq

theorem alike_figure (hfragment : isFragment (.element name attrs children) = false)
    (hclaim : claim? (.element name attrs children) = some .figure) :
    Alike place [.element name attrs children] ↔
      figureFile? (prune children) = figureFile? children ∧
        (figureFile? children = none ∨
          staged true place (figureCaption children) =
            staged false place (figureCaption (prune children))) := by
  have hclaim' : claim? (.element name attrs (prune children)) = some .figure :=
    (claim?_element ..).trans hclaim
  unfold Alike
  rw [prune_element hfragment, staged_figure hclaim, staged_figure hclaim']
  cases figureFile? children with
  | none =>
      cases figureFile? (prune children) with
      | none => simp
      | some file' => simp [imageOf]
  | some file =>
      cases figureFile? (prune children) with
      | none => simp [imageOf]
      | some file' =>
          simp only [imageOf, List.cons.injEq, Node.image.injEq, true_and, and_true,
            Option.some.injEq, reduceCtorEq, false_or, Prod.ext_iff, and_assoc, eq_comm]

theorem alike_table (hfragment : isFragment (.element name attrs children) = false)
    (hclaim : claim? (.element name attrs children) = some .table) :
    Alike place [.element name attrs children] ↔
      staged true place (tableRows children) = staged false place (tableRows (prune children)) := by
  have hclaim' : claim? (.element name attrs (prune children)) = some .table :=
    (claim?_element ..).trans hclaim
  unfold Alike
  rw [prune_element hfragment, staged_table hclaim, staged_table hclaim']
  simp

/-- Nothing is read from below these. -/
theorem alike_unread (hfragment : isFragment (.element name attrs children) = false)
    (hclaim : claim? (.element name attrs children) = some .inlineFigure ∨
      claim? (.element name attrs children) = some .math) :
    Alike place [.element name attrs children] := by
  unfold Alike
  rw [prune_element hfragment]
  rcases hclaim with hclaim | hclaim
  · rw [staged_inlineFigure hclaim, staged_inlineFigure ((claim?_element ..).trans hclaim)]
  · obtain ⟨m, _, hsame⟩ := exists_math hclaim place
    rw [hsame, hsame]

end Elements

/-! ## Headings -/

theorem trimmed_eq_iff {n x y : Node} (hx : Echo n x) (hy : Echo n y) :
    trimmed x = trimmed y ↔ x = y := by
  refine ⟨?_, congrArg trimmed⟩
  intro heq
  by_cases hn : n.kind = .text
  · rw [hx.text (.inl hn), hy.text (.inl hn)]
  · have hkind {z : Node} (hz : Echo n z) : z.kind ≠ .text := by
      intro htext
      rw [hz.text (.inr htext)] at htext
      exact hn htext
    rwa [trimmed_of_kind (hkind hx), trimmed_of_kind (hkind hy)] at heq

/-- What both orders leave may be told apart without the blanks at the end. -/
theorem trimLast_eq_iff {nodes : Forest} (h : ∀ n ∈ nodes, Unconverted n) :
    trimLast (staged true place nodes) = trimLast (staged false place (prune nodes)) ↔
      Alike place nodes := by
  induction nodes using List.reverseRecOn with
  | nil => simp
  | append_singleton before last ih =>
      have hbefore : ∀ n ∈ before, Unconverted n := fun n hn => h n (List.mem_append_left _ hn)
      have hlast : Unconverted last := h last (by simp)
      have hlength := @length_staged_prune place before hbefore
      unfold Alike
      rw [staged_append, prune_append, staged_append]
      cases remains hlast place with
      | vanished _ hstripped hplain =>
          rw [hstripped, hplain, List.append_nil, List.append_nil]
          exact ih hbefore
      | survived x _ _ hstripped hplain =>
          rw [hstripped, hplain, List.append_nil]
          constructor
          · intro heq
            have hlengths := congrArg List.length heq
            rw [length_trimLast, length_trimLast, List.length_append, List.length_singleton]
              at hlengths
            omega
          · exact congrArg trimLast
      | kept x y _ _ hstripped hplain hx hy =>
          rw [hstripped, hplain, trimLast_append, trimLast_append, List.append_singleton_inj,
            List.append_singleton_inj, trimmed_eq_iff hx hy]

variable {depth : UInt8}

theorem headed_anchored {before : Forest} {last : Node} {anchor : String}
    (h : anchorOf? last = some anchor) :
    headed depth (before ++ [last]) = .header depth (some anchor) (trimLast before) := by
  rw [headed_of_some (by simpa using h), List.dropLast_concat]

/-- A heading without an anchor at its end is no heading with one. -/
theorem headed_eq_iff {content content' : Forest}
    (h : content.getLast?.bind anchorOf? = none) :
    headed depth content = headed depth content' ↔
      content'.getLast?.bind anchorOf? = none ∧
        judgeAnchors.walk content = judgeAnchors.walk content' := by
  rw [headed_of_none h]
  cases h' : content'.getLast?.bind anchorOf? with
  | some anchor => simp [headed_of_some h']
  | none => simp [headed_of_none h']

/-- The anchor that a heading with these children ends with, fragments and page macros aside. -/
def lastAnchor? (children : Forest) : Option String :=
  (lasting children).getLast?.bind anchorOf?

theorem not_alike_survivor {nodes : Forest} {n : Node} (h : ∀ n ∈ nodes, Unconverted n)
    (hn : n ∈ nodes) (hfragment : isFragment n = true) (hvanishes : ¬ Vanishes n) :
    ¬ Alike place nodes := by
  intro halike
  have hsingle : Alike place [n] := (alike_iff_forall_mem h).1 halike n hn
  unfold Alike at hsingle
  cases remains (h n hn) place with
  | vanished h => exact hvanishes h
  | survived x _ _ hstripped hplain => simp [hstripped, hplain] at hsingle
  | kept x y hkept => simp [hfragment] at hkept

theorem alike_heading {children : Forest} (h : ∀ n ∈ children, Unconverted n) :
    headed depth (staged true .heading children) =
        headed depth (staged false .heading (prune children)) ↔
      if (lastAnchor? children).isSome then Alike .heading (lasting children).dropLast
      else Alike .article children := by
  obtain ⟨hstripped, hplain⟩ := @staged_lasting .heading children h
  rw [← alike_lasting h, ← hstripped, ← hplain, lastAnchor?]
  have hu : ∀ n ∈ lasting children, Unconverted n := fun n hn => h n (List.mem_filter.1 hn).1
  have hv : ∀ n ∈ lasting children, ¬ Vanishes n := fun n => not_vanishes_of_mem
  generalize lasting children = nodes at hu hv
  rcases List.eq_nil_or_concat' nodes with rfl | ⟨before, last, rfl⟩
  · simp
  · have hbefore : ∀ n ∈ before, Unconverted n := fun n hn => hu n (List.mem_append_left _ hn)
    have hlast : last ∈ before ++ [last] := by simp
    rw [List.getLast?_concat, List.dropLast_concat, Option.bind_some]
    cases remains (hu last hlast) .heading with
    | vanished hvanishes => exact absurd hvanishes (hv last hlast)
    | survived x hfragment hvanishes hstripped hplain hx =>
        have hanchor : anchorOf? last = none := by
          refine anchorOf?_of_kind fun htemplate => ?_
          rw [isFragment_of_kind (by simp [htemplate])] at hfragment
          cases hfragment
        have hnot : ¬ Alike .article (before ++ [last]) :=
          not_alike_survivor hu hlast hfragment hvanishes
        have hleft : (staged true .heading (before ++ [last])).getLast?.bind anchorOf? = none := by
          rw [staged_append, hstripped, List.getLast?_concat]
          exact anchorOf?_of_kind hx
        rw [hanchor, headed_eq_iff hleft]
        refine iff_of_false ?_ hnot
        rintro ⟨_, hwalk⟩
        exact hnot hwalk
    | kept x y _ _ hstripped hplain hx hy =>
        cases hanchor : anchorOf? last with
        | none =>
            have hleft :
                (staged true .heading (before ++ [last])).getLast?.bind anchorOf? = none := by
              rw [staged_append, hstripped, List.getLast?_concat]
              exact hx.anchor.trans hanchor
            have hright : (staged false .heading (prune (before ++ [last]))).getLast?.bind anchorOf? =
                none := by
              rw [prune_append, staged_append, hplain, List.getLast?_concat]
              exact hy.anchor.trans hanchor
            rw [headed_eq_iff hleft]
            exact and_iff_right hright
        | some anchor =>
            rw [staged_append, prune_append, staged_append, hstripped, hplain,
              headed_anchored (hx.anchor.trans hanchor), headed_anchored (hy.anchor.trans hanchor)]
            simp only [Option.isSome_some, if_true, Node.header.injEq, true_and]
            exact trimLast_eq_iff hbefore

/-! ## Elements that nobody claims -/

/-- What is kept of the children of an element that nobody claims, and where it stands. -/
def inside (place : Place) (name : String) (children : Forest) : Place × Forest :=
  if place = .source then (.source, children)
  else
    match blockOfName? name, headingLevel? name with
    | some _, _ => (place, children)
    | none, none => (.source, children)
    | none, some level =>
        if level = 2 ∨ level = 3 then
          if place = .article ∧ (lastAnchor? children).isSome then
            (.heading, (lasting children).dropLast)
          else (place, children)
        else (place, [])

theorem alike_inside {name : String} {attrs : Attributes} {children : Forest}
    (h : ∀ n ∈ children, Unconverted n)
    (hfragment : isFragment (.element name attrs children) = false)
    (hclaim : claim? (.element name attrs children) = none) :
    Alike place [.element name attrs children] ↔
      Alike (inside place name children).1 (inside place name children).2 := by
  have hclaim' : claim? (.element name attrs (prune children)) = none :=
    (claim?_element ..).trans hclaim
  have hboth : Alike place [.element name attrs children] ↔
      walkAll place.late [.element name attrs (prune (walkAll early children))] =
        walkAll place.late [.element name attrs (walkAll early (prune children))] := by
    rw [Alike, prune_element hfragment, staged_element hclaim fun _ => hfragment,
      staged_element hclaim' (by simp)]
    rfl
  rw [hboth, inside]
  by_cases hplace : place = .source
  · subst hplace
    rw [late_source, late_source]
    simp [Alike, staged, pruneIf]
  · rw [if_neg hplace]
    cases hblock : blockOfName? name with
    | some b =>
        rw [late_block hblock hplace, late_block hblock hplace]
        simp [Alike, staged, pruneIf]
    | none =>
        cases hlevel : headingLevel? name with
        | none =>
            rw [late_unknown hblock hlevel hplace, late_unknown hblock hlevel hplace]
            simp [Alike, staged, pruneIf]
        | some level =>
            by_cases hallowed : level = 2 ∨ level = 3
            · cases place with
              | source => exact absurd rfl hplace
              | heading =>
                  rw [late_heading_heading hblock hlevel hallowed,
                    late_heading_heading hblock hlevel hallowed]
                  simp [hallowed, Alike, staged, pruneIf]
              | article =>
                  rw [late_article_heading hblock hlevel hallowed,
                    late_article_heading hblock hlevel hallowed, List.singleton_inj]
                  refine (alike_heading h).trans ?_
                  cases (lastAnchor? children).isSome <;> simp [hallowed]
            · rw [late_notAllowed hblock hlevel hallowed hplace,
                late_notAllowed hblock hlevel hallowed hplace]
              simp [hallowed]

/-! ## Macros -/

theorem refill_map_inj {n : Node} {f g : Forest → Forest} :
    n.refill (n.sequences.map f) = n.refill (n.sequences.map g) ↔ ∀ s ∈ n.sequences, f s = g s := by
  constructor
  · intro heq
    have hsequences := congrArg Node.sequences heq
    rw [Node.sequences_refill (List.length_map _), Node.sequences_refill (List.length_map _),
      List.map_inj_left] at hsequences
    exact hsequences
  · intro heq
    rw [List.map_congr_left heq]

/-- The sequences that are kept of a macro. -/
def contents (name : String) (params : List (String × Param)) : List Forest :=
  if isInvocation (.template name params) then []
  else if name = "Liste" then
    (itemParams (mergeFamilies (Markup.familiesOf name) params)).map Param.toForest
  else if name = "Formel" then []
  else (merged name params).sequences

theorem alike_contents {name : String} {params : List (String × Param)} :
    Alike place [.template name params] ↔ ∀ s ∈ contents name params, Alike place s := by
  unfold Alike
  rw [staged_template, staged_prune_template, contents]
  cases hinvocation : isInvocation (.template name params) with
  | true =>
      have hmerged : isInvocation (merged name params) = true := hinvocation
      rw [merged, late_invocation_refill hmerged, late_invocation_refill hmerged]
      simp
  | false =>
      have hmerged : isInvocation (merged name params) = false := hinvocation
      rw [if_neg (by simp)]
      by_cases hliste : name = "Liste"
      · subst hliste
        rw [merged, late_liste_refill ((distributes_pruneIf true).comp distributes_early),
          late_liste_refill (distributes_early.comp distributes_prune), List.singleton_inj,
          Node.list.injEq, List.map_inj_left]
        simp [staged, pruneIf]
      · by_cases hformel : name = "Formel"
        · subst hformel
          rw [merged, late_formel_refill, late_formel_refill]
          simp
        · rw [if_neg hliste, if_neg hformel, merged, late_call_refill hliste hformel hmerged,
            late_call_refill hliste hformel hmerged, List.singleton_inj, refill_map_inj]
          simp [staged, pruneIf]

end ArticleTree
