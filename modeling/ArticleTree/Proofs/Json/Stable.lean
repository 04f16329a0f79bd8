import ArticleTree.Proofs.Json.TreeNesting

/-! # Texts that stay as they are read

A tree that was read from any text is written as a text of its own. That text is read as the same
tree again, unless it is nested too deeply to be read at all. It is nested at most one level
deeper than the text that was read, so only a text at the very limit can be written as one that is
beyond it.
-/

namespace ArticleTree

namespace Json

/-- A part of a record stands in it. -/
theorem Written.nesting_lt_of_record? {written : Written} {names : List String}
    {fields : List (Option Written)} (h : written.record? names = some fields) {found : Written}
    (hfound : some found ∈ fields) : found.nesting < written.nesting := by
  rcases part_of_record? h hfound with ⟨items, rfl, hitem⟩ | ⟨fields, name, rfl, hfield⟩
  · exact nesting_lt_array hitem
  · exact nesting_lt_object hfield

end Json

open Json

/-- Whatever text a tree is read from, the texts that are written for it are nested at most one
    level deeper, and are read as the same tree exactly if they are not nested too deeply. -/
def Stable {α : Type} (toJson : α → Json) (parse? : String → Option α) : Prop :=
  ∀ text tree, parse? text = some tree → ∀ again ∈ (toJson tree).texts,
    ∃ read written, Written.parse? text = some read ∧ Written.parse? again = some written ∧
      written.nesting ≤ read.nesting + 1 ∧
      parse? again = if written.nesting ≤ maxNesting then some tree else none

namespace Stable

variable {α : Type} {toJson : α → Json}

/-- A text below the limit is written as one that is read again. -/
theorem reads_again {parse? : String → Option α} (h : Stable toJson parse?) {text : String}
    {tree : α} (htree : parse? text = some tree) {read : Written}
    (hread : Written.parse? text = some read) (hlimit : read.nesting < maxNesting) :
    ∀ again ∈ (toJson tree).texts, parse? again = some tree := by
  intro again hagain
  obtain ⟨read', written, hread', -, hnesting, hparse⟩ := h text tree htree again hagain
  rw [hread, Option.some.injEq] at hread'
  subst hread'
  rw [hparse, if_pos (by omega)]

theorem of_ofJson? {ofJson? : Json → Option α} (hplain : ∀ tree, (toJson tree).Plain)
    (hagain : ∀ value tree, ofJson? value = some tree → ofJson? (toJson tree) = some tree)
    (hnesting : ∀ value tree, ofJson? value = some tree →
      (toJson tree).nesting ≤ value.nesting + 1) :
    Stable toJson fun text => (Json.parse? text).bind ofJson? := by
  intro text tree htree again htext
  obtain ⟨value, hvalue, hofJson⟩ := Option.bind_eq_some_iff.1 htree
  obtain ⟨read, hread, hvalue⟩ := Option.bind_eq_some_iff.1 hvalue
  refine ⟨read, (toJson tree).written, hread, (hplain tree).written_of_mem_texts htext, ?_, ?_⟩
  · rw [nesting_written]
    exact (hnesting value tree hofJson).trans
      (Nat.succ_le_succ (Written.nesting_le_of_value? read hvalue))
  · change (Json.parse? again).bind ofJson? = _
    rw [nesting_written, (hplain tree).parse?_of_mem_texts htext]
    split
    · exact hagain value tree hofJson
    · rfl

end Stable

/-! ## Articles -/

theorem Article.nesting_toJson (article : Article) :
    article.toJson.nesting = (Forest.toJson article.content).nesting + 1 := by
  simp [Article.toJson, nesting, nestingFields]

/-- The content of an article is made of its own part of the text. -/
theorem Article.parse?_of_written {text : String} {article : Article}
    (h : Written.parse? text = some article.toJson.written)
    (hordered : Node.allOrdered article.content = true) :
    Article.parse? text = if article.toJson.nesting ≤ maxNesting then some article else none := by
  have hrecord : article.toJson.written.record? ["title", "content"] =
      some [some (written (.string article.title)),
        some (Forest.toJson article.content).written] := by
    have hnames : ["title", "content"].Nodup := by decide
    simp only [Article.toJson, written, writtenFields, Written.record?, List.mapM_cons,
      List.mapM_nil, stringText?_map_partOf]
    exact Record.fromFields?_present hnames [some _, some _] rfl
  have htitle : (written (.string article.title)).text? = some article.title :=
    stringText?_map_partOf _
  have hcontent : (Forest.toJson article.content).written.value? (maxNesting - 1) =
      if article.toJson.nesting ≤ maxNesting then some (Forest.toJson article.content)
      else none := by
    rw [value?_written (Forest.plain_toJson article.content), Article.nesting_toJson]
    exact if_congr (Nat.add_le_add_iff_right (n := 1)).symm rfl rfl
  have hforest : Forest.ofJson? (Forest.toJson article.content) = some article.content := by
    simpa using Forest.ofJson?_toJson article.content hordered .asWritten
  simp only [Article.parse?, h, hrecord, bind, Option.bind_some, htitle, hcontent]
  split
  · simp [hforest]
  · rfl

theorem stable_article : Stable Article.toJson Article.parse? := by
  intro text article harticle again htext
  obtain ⟨read, hread, harticle⟩ := Option.bind_eq_some_iff.1 harticle
  obtain ⟨fields, hfields, harticle⟩ := Option.bind_eq_some_iff.1 harticle
  split at harticle
  · rename_i title content
    obtain ⟨value, hvalue, harticle⟩ := Option.bind_eq_some_iff.1 harticle
    obtain ⟨title, -, harticle⟩ := Option.bind_eq_some_iff.1 harticle
    obtain ⟨nodes, hnodes, heq⟩ := Option.bind_eq_some_iff.1 harticle
    cases heq
    have hwritten := (Article.plain_toJson ⟨title, nodes⟩).written_of_mem_texts htext
    refine ⟨read, _, hread, hwritten, ?_, ?_⟩
    · have htree := Forest.nesting_of_ofJson? hnodes
      have hvalue := Written.nesting_le_of_value? content hvalue
      have hcontent := Written.nesting_lt_of_record? hfields (by simp : some content ∈ _)
      rw [nesting_written, Article.nesting_toJson]
      dsimp only
      omega
    · rw [nesting_written]
      exact Article.parse?_of_written hwritten (Forest.isOrdered_of_ofJson? hnodes)
  · cases harticle

/-- Every text that is read as a node, a sequence of nodes, a parameter or an article is stable. -/
theorem stable_texts :
    Stable Node.toJson Node.parse? ∧ Stable Forest.toJson Forest.parse? ∧
      Stable Param.toJson Param.parse? ∧ Stable Article.toJson Article.parse? := by
  refine ⟨.of_ofJson? Node.plain_toJson ?_ fun _ _ => Node.nesting_of_ofJson?,
    .of_ofJson? Forest.plain_toJson ?_ fun _ _ => Forest.nesting_of_ofJson?,
    .of_ofJson? Param.plain_toJson ?_ fun _ _ => Param.nesting_of_ofJson?, stable_article⟩
  · intro value node h
    simpa using Node.ofJson?_toJson node (Node.isOrdered_of_ofJson? h) .asWritten
  · intro value nodes h
    simpa using Forest.ofJson?_toJson nodes (Forest.isOrdered_of_ofJson? h) .asWritten
  · intro value param h
    simpa using Param.ofJson?_toJson param (Param.isOrdered_of_ofJson? h) .asWritten

/-! ## The limit -/

/-- Nodes that stand for each other's targets, and at the bottom an element that is given without
    attributes and children. -/
def shortTower : Nat → Json
  | 0 => .array [.string "element", .string "b"]
  | n + 1 => .array [.string "notimplemented", shortTower n]

/-- The tree that is read from it. -/
def tower : Nat → Node
  | 0 => .element "b" ∅ []
  | n + 1 => .notImplemented (tower n)

theorem plain_shortTower (n : Nat) : (shortTower n).Plain := by
  induction n with
  | zero => exact .array (by simp [Plain.string])
  | succ n ih => exact .array (by simp [Plain.string, ih])

theorem nesting_shortTower (n : Nat) : (shortTower n).nesting = n + 1 := by
  induction n with
  | zero => rfl
  | succ n ih => simp [shortTower, nesting, nestingAll, ih]

theorem nesting_tower (n : Nat) : (tower n).toJson.nesting = n + 2 := by
  induction n with
  | zero => rfl
  | succ n ih => simp [tower, Node.toJson, Kind.toJson, nesting, nestingFields, ih]

theorem reading_shortTower (n : Nat) : (shortTower n).reading.node = some (tower n) := by
  induction n with
  | zero => rfl
  | succ n ih =>
      change (shortTower n).reading.node.bind (fun target => some (Node.notImplemented target)) = _
      rw [ih]
      rfl

theorem parse?_shortTower {n : Nat} (h : n < maxNesting) :
    Node.parse? (shortTower n).compact = some (tower n) := by
  have htext : (shortTower n).compact ∈ (shortTower n).texts := List.mem_cons_self
  have hroom : (shortTower n).nesting ≤ maxNesting := by
    rw [nesting_shortTower]
    exact h
  have hnamed : (shortTower n).kindIsNamed = true := by cases n <;> rfl
  rw [Node.parse?, (plain_shortTower n).parse?_of_mem_texts htext, if_pos hroom, Option.bind_some,
    Node.ofJson?, if_pos hnamed, reading_shortTower]

/-- The text that is written for a text just below the limit is at the limit. -/
theorem stable_texts_tower :
    Node.parse? (shortTower 125).compact = some (tower 125) ∧
      ∀ again ∈ (tower 125).toJson.texts, Node.parse? again = some (tower 125) := by
  have hshort : Node.parse? (shortTower 125).compact = some (tower 125) :=
    parse?_shortTower (by decide)
  have hlimit : (shortTower 125).written.nesting < maxNesting := by
    rw [nesting_written, nesting_shortTower]
    decide
  exact ⟨hshort, stable_texts.1.reads_again hshort (plain_shortTower 125).parse?_compact hlimit⟩

/-- The one for a text at the limit is beyond it, and is not read. -/
theorem unreadable_tower :
    Node.parse? (shortTower 126).compact = some (tower 126) ∧
      ∀ again ∈ (tower 126).toJson.texts, Node.parse? again = none := by
  refine ⟨parse?_shortTower (by decide), fun again hagain => ?_⟩
  have hdeep : ¬ (tower 126).toJson.nesting ≤ maxNesting := by
    rw [nesting_tower]
    decide
  rw [Node.parse?, (Node.plain_toJson _).parse?_of_mem_texts hagain, if_neg hdeep]
  rfl

end ArticleTree
