import ArticleTree.Proofs.Stages.Judgements
import ArticleTree.Proofs.Text.Affix
import ArticleTree.Proofs.Text.Blank

/-! # Formulas on a line of their own

The argument of the macro has a formula inside a tag, and may line it up. Reading takes the tag
up to the last place where it closes, and each end of the line up by itself. So a formula that
was wrapped is found again, whatever it has in it, but not everything that is read was wrapped:
what stands behind the tag is lost, and so is one end of a line up without the other.
-/

namespace ArticleTree.Stages

open Text Judgement

/-! ## The last place of a mark -/

theorem not_infix_of_beforeLast? {mark cs : List Char} (h : beforeLast? mark cs = none) :
    ¬ mark <:+: cs := by
  induction cs with
  | nil =>
      intro hinfix
      rw [List.infix_nil] at hinfix
      simp [beforeLast?, hinfix] at h
  | cons c cs ih =>
      rw [beforeLast?] at h
      split at h
      · cases h
      · rename_i hrest
        split at h
        · cases h
        · rename_i hstart
          rw [List.infix_cons_iff, not_or]
          exact ⟨fun hprefix => hstart (isSome_dropStart?.2 hprefix), ih hrest⟩

/-- What is found is in front of the mark, and no later place is. -/
theorem beforeLast?_eq_some {mark cs before : List Char} (h : beforeLast? mark cs = some before) :
    (∃ after, cs = before ++ mark ++ after) ∧
      ∀ before' after', cs = before' ++ mark ++ after' → before'.length ≤ before.length := by
  induction cs generalizing before with
  | nil =>
      cases mark with
      | nil =>
          cases h
          refine ⟨⟨[], rfl⟩, ?_⟩
          intro before' after' heq
          rw [List.append_nil, List.nil_eq_append_iff] at heq
          rw [heq.1]
      | cons => cases h
  | cons c cs ih =>
      have later {before' after' : List Char} (heq : c :: cs = before' ++ mark ++ after') :
          before' = [] ∨ ∃ rest, before' = c :: rest ∧ cs = rest ++ mark ++ after' := by
        cases before' with
        | nil => exact .inl rfl
        | cons d ds =>
            cases heq
            exact .inr ⟨ds, rfl, rfl⟩
      rw [beforeLast?] at h
      split at h
      · rename_i found hfound
        cases h
        obtain ⟨⟨after, hafter⟩, hlast⟩ := ih hfound
        refine ⟨⟨after, congrArg (c :: ·) hafter⟩, ?_⟩
        intro before' after' heq
        rcases later heq with rfl | ⟨rest, rfl, hrest⟩
        · exact Nat.zero_le _
        · exact Nat.succ_le_succ (hlast rest after' hrest)
      · rename_i hnone
        split at h
        · rename_i hstart
          cases h
          obtain ⟨after, hafter⟩ := isSome_dropStart?.1 hstart
          refine ⟨⟨after, hafter.symm⟩, ?_⟩
          intro before' after' heq
          rcases later heq with rfl | ⟨rest, rfl, hrest⟩
          · exact Nat.le_refl _
          · exact absurd ⟨rest, after', hrest.symm⟩ (not_infix_of_beforeLast? hnone)
        · cases h

/-- The text begins with the tag, and `inside` goes up to the last place where the tag closes. -/
structure Wraps (text inside behind : String) : Prop where
  eq : text = "<math>" ++ inside ++ "</math>" ++ behind
  last : ∀ inside' behind', text = "<math>" ++ inside' ++ "</math>" ++ behind' →
    inside'.length ≤ inside.length

theorem wraps_closed (inside : String) : Wraps ("<math>" ++ inside ++ "</math>") inside "" where
  eq := (String.append_empty).symm
  last inside' behind' heq := by
    have hlength := congrArg String.length heq
    simp only [String.length_append] at hlength
    omega

/-- There is one last place. -/
theorem Wraps.unique {text inside inside' behind behind' : String} (h : Wraps text inside behind)
    (h' : Wraps text inside' behind') : inside = inside' ∧ behind = behind' := by
  have hlength : inside.length = inside'.length :=
    Nat.le_antisymm (h'.last _ _ h.eq) (h.last _ _ h'.eq)
  have heq := congrArg String.toList (h.eq.symm.trans h'.eq)
  simp only [String.toList_append, List.append_assoc] at heq
  obtain ⟨hinside, hrest⟩ := List.append_inj (List.append_cancel_left heq)
    (by simpa only [String.length_toList] using hlength)
  exact ⟨String.toList_inj.1 hinside, String.toList_inj.1 (List.append_cancel_left hrest)⟩

theorem exists_wraps_of_wrapped? {text inside : String} (h : wrapped? text = some inside) :
    ∃ behind, Wraps text inside behind := by
  simp only [wrapped?, Option.bind_eq_bind, Option.bind_eq_some_iff, Option.pure_def,
    Option.some.injEq] at h
  obtain ⟨rest, hrest, found, hfound, rfl⟩ := h
  have htext := dropStart?_eq_some.1 hrest
  obtain ⟨⟨behind, hbehind⟩, hlast⟩ := beforeLast?_eq_some hfound
  refine ⟨.ofList behind, ?_, ?_⟩
  · rw [← String.toList_inj]
    simp only [String.toList_append, String.toList_ofList, htext, hbehind, List.append_assoc]
  · intro inside' behind' heq
    have hother := congrArg String.toList heq
    simp only [String.toList_append, htext, List.append_assoc] at hother
    have hle := hlast inside'.toList behind'.toList
      (by rw [List.append_cancel_left hother, List.append_assoc])
    simpa only [← String.length_toList, String.toList_ofList] using hle

/-- Where the tag closes at all, a last place is found. -/
theorem Wraps.wrapped?_ne_none {text inside behind : String} (h : Wraps text inside behind) :
    wrapped? text ≠ none := by
  intro hnone
  have hstart : dropStart? "<math>".toList text.toList =
      some (inside.toList ++ "</math>".toList ++ behind.toList) := by
    rw [dropStart?_eq_some, h.eq]
    simp only [String.toList_append, List.append_assoc]
  simp only [wrapped?, hstart, Option.bind_eq_bind, Option.bind_some, Option.pure_def,
    Option.bind_eq_none_iff, reduceCtorEq, imp_false] at hnone
  exact not_infix_of_beforeLast? (Option.eq_none_iff_forall_ne_some.2 hnone)
    ⟨inside.toList, behind.toList, rfl⟩

theorem wrapped?_eq_some {text inside : String} :
    wrapped? text = some inside ↔ ∃ behind, Wraps text inside behind := by
  refine ⟨exists_wraps_of_wrapped?, ?_⟩
  rintro ⟨behind, h⟩
  cases hfound : wrapped? text with
  | some found =>
      obtain ⟨behind', h'⟩ := exists_wraps_of_wrapped? hfound
      rw [(h.unique h').1]
  | none => exact absurd hfound h.wrapped?_ne_none

/-! ## The line up -/

/-- What a formula is without the ends of a line up. Each of them is looked for by itself. -/
inductive Unaligned : String → String → Prop where
  | aligned (inner : String) : Unaligned (alignBegin ++ inner ++ alignEnd) inner
  | begun (inner : String) : ¬ alignEnd.toList <:+ inner.toList →
      Unaligned (alignBegin ++ inner) inner
  | ended (inner : String) : ¬ alignBegin.toList <+: (inner ++ alignEnd).toList →
      Unaligned (inner ++ alignEnd) inner
  | bare (formula : String) : ¬ alignBegin.toList <+: formula.toList →
      ¬ alignEnd.toList <:+ formula.toList → Unaligned formula formula

theorem Unaligned.eq {formula inner : String} (h : Unaligned formula inner) :
    withoutEnding alignEnd (withoutStart alignBegin formula) = inner := by
  cases h with
  | aligned => rw [String.append_assoc, withoutStart_append, withoutEnding_append]
  | begun _ hend => rw [withoutStart_append, withoutEnding_of_not hend]
  | ended _ hbegin => rw [withoutStart_of_not hbegin, withoutEnding_append]
  | bare _ hbegin hend => rw [withoutStart_of_not hbegin, withoutEnding_of_not hend]

theorem exists_unaligned (formula : String) : ∃ inner, Unaligned formula inner := by
  by_cases hbegin : alignBegin.toList <+: formula.toList
  · obtain ⟨rest, rfl⟩ := exists_of_prefix hbegin
    by_cases hend : alignEnd.toList <:+ rest.toList
    · obtain ⟨inner, rfl⟩ := exists_of_suffix hend
      exact ⟨inner, String.append_assoc ▸ .aligned inner⟩
    · exact ⟨rest, .begun rest hend⟩
  · by_cases hend : alignEnd.toList <:+ formula.toList
    · obtain ⟨inner, rfl⟩ := exists_of_suffix hend
      exact ⟨inner, .ended inner hbegin⟩
    · exact ⟨formula, .bare formula hbegin hend⟩

theorem unaligned_iff {formula inner : String} : Unaligned formula inner ↔
    withoutEnding alignEnd (withoutStart alignBegin formula) = inner := by
  refine ⟨Unaligned.eq, ?_⟩
  rintro rfl
  obtain ⟨inner, h⟩ := exists_unaligned formula
  rwa [h.eq]

/-! ## Formulas -/

theorem displayFormula?_eq_some {argument formula : String} :
    displayFormula? argument = some formula ↔ ∃ inside behind inner,
      Wraps (trim argument) inside behind ∧ Unaligned (trim inside) inner ∧
        formula = trim inner := by
  simp only [displayFormula?, Option.bind_eq_bind, Option.bind_eq_some_iff, Option.pure_def,
    Option.some.injEq, wrapped?_eq_some, unaligned_iff]
  constructor
  · rintro ⟨inside, ⟨behind, hwraps⟩, rfl⟩
    exact ⟨inside, behind, _, hwraps, rfl, rfl⟩
  · rintro ⟨inside, behind, _, hwraps, rfl, rfl⟩
    exact ⟨inside, ⟨behind, hwraps⟩, rfl⟩

theorem displayFormula?_of_trim {argument inside inner : String}
    (htag : trim argument = "<math>" ++ inside ++ "</math>")
    (hinner : Unaligned (trim inside) inner) :
    displayFormula? argument = some (trim inner) :=
  displayFormula?_eq_some.2 ⟨inside, "", inner, htag ▸ wraps_closed inside, hinner, rfl⟩

theorem trim_tagged {before behind : String} (hbefore : isBlankText before = true)
    (hbehind : isBlankText behind = true) (inside : String) :
    trim (before ++ ("<math>" ++ inside ++ "</math>") ++ behind) =
      "<math>" ++ inside ++ "</math>" := by
  have htag : Trimmed ("<math>" ++ inside ++ "</math>") :=
    Trimmed.enclosing (by decide) (by decide) (by decide) (by decide) inside
  exact trim_surrounded hbefore htag hbehind

theorem trimmed_aligned (inner : String) : Trimmed (alignBegin ++ inner ++ alignEnd) :=
  Trimmed.enclosing (by decide) (by decide) (by decide) (by decide) inner

/-- A formula that was wrapped is found again, whatever it has in it: other tags, other line ups,
    line ends, or nothing at all. Blanks do not count. -/
theorem displayFormula?_wrapped {formula b₁ b₂ b₃ b₄ b₅ b₆ : String} (hformula : Trimmed formula)
    (hblank : ∀ b ∈ [b₁, b₂, b₃, b₄, b₅, b₆], isBlankText b = true) :
    displayFormula? (b₁ ++ "<math>" ++ b₂ ++ "\\begin\x7balign\x7d" ++ b₃ ++ formula ++ b₄ ++
        "\\end\x7balign\x7d" ++ b₅ ++ "</math>" ++ b₆) = some formula ∧
      (¬ "\\begin\x7balign\x7d".toList <+: formula.toList →
        ¬ "\\end\x7balign\x7d".toList <:+ formula.toList →
          displayFormula? (b₁ ++ "<math>" ++ b₂ ++ formula ++ b₅ ++ "</math>" ++ b₆) =
            some formula) := by
  simp only [List.forall_mem_cons, List.not_mem_nil, false_imp_iff, implies_true, and_true]
    at hblank
  obtain ⟨h₁, h₂, h₃, h₄, h₅, h₆⟩ := hblank
  constructor
  · have hinside : trim (b₂ ++ (alignBegin ++ (b₃ ++ formula ++ b₄) ++ alignEnd) ++ b₅) =
        alignBegin ++ (b₃ ++ formula ++ b₄) ++ alignEnd :=
      trim_surrounded h₂ (trimmed_aligned _) h₅
    have hinner : Unaligned (trim (b₂ ++ (alignBegin ++ (b₃ ++ formula ++ b₄) ++ alignEnd) ++ b₅))
        (b₃ ++ formula ++ b₄) := by
      rw [hinside]
      exact .aligned _
    have hread := displayFormula?_of_trim (trim_tagged h₁ h₆ _) hinner
    rw [trim_surrounded h₃ hformula h₄] at hread
    rw [← hread]
    simp only [String.append_assoc, alignBegin, alignEnd]
  · intro hbegin hend
    have hinside : trim (b₂ ++ formula ++ b₅) = formula := trim_surrounded h₂ hformula h₅
    have hinner : Unaligned (trim (b₂ ++ formula ++ b₅)) formula := by
      rw [hinside]
      exact .bare formula hbegin hend
    have hread := displayFormula?_of_trim (trim_tagged h₁ h₆ _) hinner
    rw [trim_of_trimmed hformula] at hread
    rw [← hread]
    simp only [String.append_assoc]

theorem displayFormula?_wrapped_closingTag :
    let formula := "a &= b</math>\n<math>\\end\x7balign\x7d c"
    Trimmed formula ∧ (∀ b ∈ [" ", "\n", "", "\t", "", "\n\n"], isBlankText b = true) ∧
      ¬ "\\begin\x7balign\x7d".toList <+: formula.toList ∧
      ¬ "\\end\x7balign\x7d".toList <:+ formula.toList ∧
      displayFormula? (" " ++ "<math>" ++ "\n" ++ "\\begin\x7balign\x7d" ++ "" ++ formula ++ "\t" ++
        "\\end\x7balign\x7d" ++ "" ++ "</math>" ++ "\n\n") = some formula ∧
      displayFormula? (" " ++ "<math>" ++ "\n" ++ formula ++ "" ++ "</math>" ++ "\n\n") =
        some formula := by
  intro formula
  have hformula : Trimmed formula := by decide
  have hblank : ∀ b ∈ [" ", "\n", "", "\t", "", "\n\n"], isBlankText b = true := by decide
  have hbegin : ¬ "\\begin\x7balign\x7d".toList <+: formula.toList := by decide
  have hend : ¬ "\\end\x7balign\x7d".toList <:+ formula.toList := by decide
  obtain ⟨haligned, hbare⟩ := displayFormula?_wrapped hformula hblank
  exact ⟨hformula, hblank, hbegin, hend, haligned, hbare hbegin hend⟩

/-! ## Whole formulas -/

/-- The formula is all that stands in the tag, or in a line up that fills the tag, and the tag is
    the whole argument, blanks aside. -/
inductive WholeFormula (argument : String) : String → Prop where
  | bare {inside : String} : trim argument = "<math>" ++ inside ++ "</math>" →
      WholeFormula argument (trim inside)
  | aligned {inside inner : String} : trim argument = "<math>" ++ inside ++ "</math>" →
      trim inside = "\\begin\x7balign\x7d" ++ inner ++ "\\end\x7balign\x7d" →
      WholeFormula argument (trim inner)

/-- The formula has both ends of a line up, or none. -/
inductive Paired : String → Prop where
  | both (inner : String) :
      Paired ("\\begin\x7balign\x7d" ++ inner ++ "\\end\x7balign\x7d")
  | neither {formula : String} : ¬ "\\begin\x7balign\x7d".toList <+: formula.toList →
      ¬ "\\end\x7balign\x7d".toList <:+ formula.toList → Paired formula

/-- Nothing stands behind the tag, and a line up has both ends. -/
def Complete (argument : String) : Prop :=
  ∃ inside, trim argument = "<math>" ++ inside ++ "</math>" ∧ Paired (trim inside)

theorem Unaligned.unique {formula inner inner' : String} (h : Unaligned formula inner)
    (h' : Unaligned formula inner') : inner = inner' :=
  h.eq.symm.trans h'.eq

theorem wholeFormula_iff {argument formula : String} : WholeFormula argument formula ↔
    ∃ inside, trim argument = "<math>" ++ inside ++ "</math>" ∧ (formula = trim inside ∨
      ∃ inner, trim inside = alignBegin ++ inner ++ alignEnd ∧ formula = trim inner) := by
  constructor
  · intro h
    cases h with
    | bare htag => exact ⟨_, htag, .inl rfl⟩
    | aligned htag hinner => exact ⟨_, htag, .inr ⟨_, hinner, rfl⟩⟩
  · rintro ⟨inside, htag, rfl | ⟨inner, hinner, rfl⟩⟩
    · exact .bare htag
    · exact .aligned htag hinner

/-- Taking off an end of a line up makes a formula shorter. -/
theorem Unaligned.paired {formula inner : String} (h : Unaligned formula inner)
    (hlength : formula.length ≤ inner.length) : Paired formula := by
  have hbegin : alignBegin.length = 13 := by decide
  have hend : alignEnd.length = 11 := by decide
  cases h with
  | aligned => exact .both inner
  | begun =>
      rw [String.length_append] at hlength
      omega
  | ended =>
      rw [String.length_append] at hlength
      omega
  | bare _ hbegin hend => exact .neither hbegin hend

/-- What is read is the whole formula exactly if that was complete. -/
theorem whole_iff {argument inside behind inner : String}
    (hwraps : Wraps (trim argument) inside behind) (hinner : Unaligned (trim inside) inner) :
    WholeFormula argument (trim inner) ↔ Complete argument := by
  have hsame {inside' : String} (htag : trim argument = "<math>" ++ inside' ++ "</math>") :
      inside' = inside :=
    ((htag ▸ wraps_closed inside').unique hwraps).1
  rw [wholeFormula_iff]
  constructor
  · rintro ⟨inside', htag, hwhole⟩
    obtain rfl := hsame htag
    refine ⟨inside', htag, ?_⟩
    rcases hwhole with hbare | ⟨inner', haligned, -⟩
    · refine hinner.paired ?_
      rw [← hbare]
      exact length_trim_le inner
    · rw [haligned]
      exact .both inner'
  · rintro ⟨inside', htag, hpaired⟩
    obtain rfl := hsame htag
    refine ⟨inside', htag, ?_⟩
    generalize hformula : trim inside' = formula at hinner hpaired ⊢
    cases hpaired with
    | both inner' => exact .inr ⟨inner', rfl, congrArg trim (hinner.unique (.aligned inner'))⟩
    | neither hbegin hend =>
        refine .inl ?_
        rw [hinner.unique (.bare formula hbegin hend), ← hformula, trim_trim]

theorem walk_judgeMacros_formel (params : List (String × Param)) :
    judgeMacros.walk [.template "Formel" params] =
      [equationOfMacro (.template "Formel" params)] := by
  have hverdict : judgeMacros (.template "Formel" params) =
      .done (equationOfMacro (.template "Formel" params)) := only_of rfl
  rw [walk_singleton, node_done hverdict]
  rfl

/-- What is read goes up to the last place where the tag closes, without either end of a line up.
    It is the whole formula exactly if nothing stands behind that place and the line up has both
    ends or none. The macro becomes what is read, or an error if there is no tag. -/
theorem displayFormula?_whole (argument : String) :
    (∀ formula, displayFormula? argument = some formula ↔ ∃ inside behind inner,
      Wraps (trim argument) inside behind ∧ Unaligned (trim inside) inner ∧
        formula = trim inner) ∧
    (∀ formula, displayFormula? argument = some formula →
      (WholeFormula argument formula ↔ Complete argument)) ∧
    ∀ ctx params, (Node.template "Formel" params).textParam? "1" = some argument →
      macros.walk ctx [.template "Formel" params] =
        .done [((displayFormula? argument).map Node.equation).getD
          (.error "Formel needs a <math> formula as its first parameter")] := by
  refine ⟨fun formula => displayFormula?_eq_some, ?_, ?_⟩
  · intro formula hread
    obtain ⟨inside, behind, inner, hwraps, hinner, rfl⟩ := displayFormula?_eq_some.1 hread
    exact whole_iff hwraps hinner
  · intro ctx params hparam
    rw [walk_macros, walk_judgeMacros_formel, equationOfMacro, hparam, Option.bind_some]
    cases displayFormula? argument <;> rfl

theorem displayFormula?_whole_linedUp :
    let argument := "<math>\n\\begin\x7balign\x7d a </math> b \\end\x7balign\x7d</math> "
    displayFormula? argument = some "a </math> b" ∧ Complete argument ∧
      WholeFormula argument "a </math> b" ∧
      (Node.template "Formel" [("1", .text argument)]).textParam? "1" = some argument ∧
      macros.walk ⟨"Title", 0⟩ [.template "Formel" [("1", .text argument)]] =
        .done [.equation "a </math> b"] := by
  intro argument
  have hread : displayFormula? argument = some "a </math> b" := by decide
  have hcomplete : Complete argument :=
    ⟨"\n\\begin\x7balign\x7d a </math> b \\end\x7balign\x7d", by decide, .both " a </math> b "⟩
  have hparam : (Node.template "Formel" [("1", .text argument)]).textParam? "1" = some argument :=
    rfl
  obtain ⟨-, hwhole, hmacro⟩ := displayFormula?_whole argument
  have hwalk := hmacro ⟨"Title", 0⟩ _ hparam
  rw [hread] at hwalk
  exact ⟨hread, hcomplete, (hwhole _ hread).2 hcomplete, hparam, hwalk⟩

/-- What stands behind the tag is lost, and so is one end of a line up without the other. -/
theorem displayFormula?_cut :
    displayFormula? "<math>a</math> b" = some "a" ∧ ¬ WholeFormula "<math>a</math> b" "a" ∧
      displayFormula? "<math>\\begin\x7balign\x7d a</math>" = some "a" ∧
      ¬ WholeFormula "<math>\\begin\x7balign\x7d a</math>" "a" := by
  refine ⟨by decide, ?_, by decide, ?_⟩
  · intro h
    obtain ⟨inside, htag, -⟩ := wholeFormula_iff.1 h
    have hlast := congrArg (fun s => s.toList.getLast?) htag
    simp only [getLast?_append_text (by decide : "</math>" ≠ "")] at hlast
    revert hlast
    decide
  · intro h
    obtain ⟨inside, htag, hwhole⟩ := wholeFormula_iff.1 h
    have hknown : trim "<math>\\begin\x7balign\x7d a</math>" =
        "<math>" ++ "\\begin\x7balign\x7d a" ++ "</math>" := by decide
    obtain rfl : "\\begin\x7balign\x7d a" = inside :=
      ((hknown ▸ wraps_closed _).unique (htag ▸ wraps_closed inside)).1
    rcases hwhole with hbare | ⟨inner, haligned, -⟩
    · revert hbare
      decide
    · have hlast := congrArg (fun s => s.toList.getLast?) haligned
      simp only [getLast?_append_text (by decide : alignEnd ≠ "")] at hlast
      revert hlast
      decide

end ArticleTree.Stages
