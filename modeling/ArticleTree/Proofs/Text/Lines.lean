import ArticleTree.Text.Affix

/-! # Texts divided into lines -/

namespace ArticleTree.Text

/-- A line feed ends a line, together with a carriage return right before it. What stands behind
    the last line feed is one more line, unless nothing does. -/
inductive DividedInto : List Char → List (List Char) → Prop where
  | nil : DividedInto [] []
  | last {line : List Char} : line ≠ [] → '\n' ∉ line → DividedInto line [line]
  | feed {line rest : List Char} {lines : List (List Char)} : '\n' ∉ line →
      line.getLast? ≠ some '\r' → DividedInto rest lines →
      DividedInto (line ++ '\n' :: rest) (line :: lines)
  | returnFeed {line rest : List Char} {lines : List (List Char)} : '\n' ∉ line →
      DividedInto rest lines → DividedInto (line ++ '\r' :: '\n' :: rest) (line :: lines)

/-- The line begun so far is the beginning of what is divided. -/
theorem dividedInto_linesFrom {line : List Char} (h : '\n' ∉ line) (cs : List Char) :
    DividedInto (line.reverse ++ cs) (linesFrom line cs) := by
  induction cs generalizing line with
  | nil =>
      cases line with
      | nil => exact .nil
      | cons c line =>
          rw [List.append_nil]
          exact .last (by simp) (by rwa [List.mem_reverse])
  | cons c cs ih =>
      rw [linesFrom]
      split
      · rename_i hc
        subst hc
        have hrest : DividedInto cs (linesFrom [] cs) := ih List.not_mem_nil
        split
        · rename_i hreturn
          obtain ⟨line, rfl⟩ := List.head?_eq_some_iff.1 hreturn
          rw [List.mem_cons, not_or] at h
          rw [List.reverse_cons, List.append_assoc]
          exact .returnFeed (by rw [List.mem_reverse]; exact h.2) hrest
        · rename_i hreturn
          refine .feed (by rwa [List.mem_reverse]) ?_ hrest
          rwa [List.getLast?_reverse]
      · rename_i hc
        have hline : '\n' ∉ c :: line := by
          rw [List.mem_cons, not_or]
          exact ⟨Ne.symm hc, h⟩
        have hsplit := ih hline
        rwa [List.reverse_cons, List.append_assoc] at hsplit

/-- A line is a part of the text. -/
theorem DividedInto.part_of_mem {cs : List Char} {lines : List (List Char)}
    (h : DividedInto cs lines) : ∀ line ∈ lines, line <:+: cs := by
  induction h with
  | nil => simp
  | last => simp
  | @feed line rest lines _ _ _ ih =>
      refine List.forall_mem_cons.2 ⟨⟨[], '\n' :: rest, rfl⟩, ?_⟩
      intro other hother
      exact (ih other hother).trans ⟨line ++ ['\n'], [], by simp⟩
  | @returnFeed line rest lines _ _ ih =>
      refine List.forall_mem_cons.2 ⟨⟨[], '\r' :: '\n' :: rest, rfl⟩, ?_⟩
      intro other hother
      exact (ih other hother).trans ⟨line ++ ['\r', '\n'], [], by simp⟩

end ArticleTree.Text
