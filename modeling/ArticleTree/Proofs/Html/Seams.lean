import ArticleTree.Proofs.Html.Stretches
import ArticleTree.Proofs.Html.Words

/-! # Seams

A text that was cut into chunks has the same normal form in pieces if every chunk has a word, and
where two chunks meet at most one of them has a blank.
-/

namespace ArticleTree.Html

open Text (isBlank solid collapseFrom)

/-- The chunk goes on with the text so that each may be put into its normal form by itself. -/
structure Seam (text chunk : String) : Prop where
  worded : Worded chunk.toList
  oneBlank : text.toList.getLast?.any isBlank = true → chunk.toList.head?.any isBlank = false

instance (text chunk : String) : Decidable (Seam text chunk) :=
  decidable_of_iff
    ((solid chunk.toList = [] → chunk.toList = []) ∧
      (text.toList.getLast?.any isBlank = true → chunk.toList.head?.any isBlank = false))
    ⟨fun h => ⟨h.1, h.2⟩, fun h => ⟨h.worded, h.oneBlank⟩⟩

theorem settled_of_worded {data : String} (h : Worded data.toList) :
    settled data = collapseFrom false data.toList := by
  unfold settled
  split
  · rename_i hblank
    rw [h (Text.isBlankText_iff.1 hblank)]
    rfl
  · rfl

theorem settled_append_of_seam {text chunk : String} (h : Seam text chunk)
    (htext : Worded text.toList) : settled (text ++ chunk) = settled text ++ settled chunk := by
  have hboth : Worded (text ++ chunk).toList := by
    rw [String.toList_append]
    exact htext.append h.worded
  have hchunk : collapseFrom (text.toList.getLast?.elim false isBlank) chunk.toList =
      collapseFrom false chunk.toList := by
    cases hlast : text.toList.getLast? with
    | none => rfl
    | some c =>
        cases hblank : isBlank c with
        | false => simp [hblank]
        | true =>
            have hhead := h.oneBlank (by simp [hlast, hblank])
            refine Text.collapseFrom_of_head ?_ _
            intro d hd
            simpa [Option.mem_def.1 hd] using hhead
  rw [settled_of_worded hboth, settled_of_worded htext, settled_of_worded h.worded,
    String.toList_append, Text.collapseFrom_append, hchunk]

/-! ## Tokens that leave nothing -/

/-- The token leaves nothing in the tree. -/
def Token.isSilent : Token → Bool
  | .comment | .doctype => true
  | _ => false

def withoutSilent (tokens : List Token) : List Token :=
  tokens.filter fun token => !token.isSilent

theorem withoutSilent_nil : withoutSilent [] = [] := rfl

theorem withoutSilent_cons {token : Token} (h : token.isSilent = false) (tokens : List Token) :
    withoutSilent (token :: tokens) = token :: withoutSilent tokens :=
  List.filter_cons_of_pos (by simp [h])

theorem withoutSilent_unspaced (tokens : List Token) :
    withoutSilent (tokens.map Token.unspaced) = (withoutSilent tokens).map Token.unspaced := by
  have hsilent (token : Token) : token.unspaced.isSilent = token.isSilent := by
    cases token <;> rfl
  rw [withoutSilent, withoutSilent, List.filter_map]
  simp only [Function.comp_def, hsilent]

/-- At every comment between texts there is a seam. `text` is what the chunks before had of the
    stretch, and `cut` says that a comment stood between these and the chunk. -/
def TidyFrom (cut : Bool) (text chunk : String) : List Token → Prop
  | [] => cut = true → Seam text chunk
  | .text data :: rest => TidyFrom cut text (chunk ++ data) rest
  | .comment :: rest | .doctype :: rest =>
      Seam text chunk ∧ TidyFrom true (text ++ chunk) "" rest
  | .startTag _ _ _ :: rest | .endTag _ :: rest | .fault :: rest =>
      (cut = true → Seam text chunk) ∧ TidyFrom false "" "" rest

/-- Every chunk beside a comment has a word, if it is not empty, and no comment has blanks on both
    sides. -/
def Tidy (tokens : List Token) : Prop :=
  TidyFrom false "" "" tokens

theorem settled_empty : settled "" = [] := rfl

section Tidy

variable {cut first : Bool} {base : List Char} {text chunk : String}

theorem append_settled_of_seam (h : cut = true → Seam text chunk) (htext : Worded text.toList)
    (hcut : cut = false → text = "") :
    base ++ settled text ++ settled chunk = base ++ settled (text ++ chunk) := by
  rw [List.append_assoc]
  cases cut with
  | false => rw [hcut rfl, settled_empty, List.nil_append, String.empty_append]
  | true => rw [settled_append_of_seam (h rfl) htext]

/-- At seams, it makes no difference where a text is cut. -/
theorem textsFrom_of_tidy {tokens : List Token} (h : TidyFrom cut text chunk tokens)
    (htext : Worded text.toList) (hcut : cut = false → text = "") :
    textsFrom first (base ++ settled text) chunk tokens =
      textsFrom first base (text ++ chunk) (withoutSilent tokens) := by
  -- `base` is what came before the last fault. That ends a chunk with comments and without, so
  -- that the text begins again there.
  induction tokens generalizing cut first base text chunk with
  | nil =>
      have hfull := @append_settled_of_seam cut base text chunk h htext hcut
      exact congrArg (fun full => [trimmed first false full]) hfull
  | cons token tokens ih =>
      cases token with
      | text data =>
          have hrest := @ih cut first base text (chunk ++ data) h htext hcut
          rw [← String.append_assoc] at hrest
          exact hrest
      | startTag name attrs selfClosing =>
          have hfull := @append_settled_of_seam cut base text chunk h.1 htext hcut
          have hrest (inside : Bool) := @ih false inside [] "" "" h.2 worded_nil fun _ => rfl
          exact congrArg₂ List.cons (congrArg (trimmed first false) hfull) (hrest _)
      | endTag name =>
          have hfull := @append_settled_of_seam cut base text chunk h.1 htext hcut
          have hrest := @ih false false [] "" "" h.2 worded_nil fun _ => rfl
          exact congrArg₂ List.cons (congrArg (trimmed first true) hfull) hrest
      | comment | doctype =>
          have hfull := @append_settled_of_seam true base text chunk (fun _ => h.1) htext
            (by simp)
          have hboth : Worded (text ++ chunk).toList := by
            rw [String.toList_append]
            exact htext.append h.1.worded
          have hrest := @ih true first base (text ++ chunk) "" h.2 hboth (by simp)
          rw [String.append_empty, ← hfull] at hrest
          exact hrest
      | fault =>
          have hfull := @append_settled_of_seam cut base text chunk h.1 htext hcut
          have hrest := @ih false first (base ++ settled (text ++ chunk)) "" "" h.2 worded_nil
            fun _ => rfl
          rw [settled_empty, List.append_nil] at hrest
          refine Eq.trans ?_ hrest
          rw [← hfull]
          rfl

end Tidy

/-! ## Without blanks -/

theorem seam_of_none {text chunk : String} (h : ∀ c ∈ chunk.toList, isBlank c = false) :
    Seam text chunk where
  worded hsolid := by rwa [Text.solid_of_none h] at hsolid
  oneBlank _ := by
    rw [Option.any_eq_false]
    intro d hd
    simp [h d (List.mem_of_mem_head? hd)]

/-- Texts without blanks may be cut anywhere. -/
theorem tidyFrom_unspaced {tokens : List Token} {cut : Bool} {text chunk : String}
    (h : ∀ c ∈ chunk.toList, isBlank c = false) :
    TidyFrom cut text chunk (tokens.map Token.unspaced) := by
  have hempty : ∀ c ∈ "".toList, isBlank c = false := by simp
  induction tokens generalizing cut text chunk with
  | nil => exact fun _ => seam_of_none h
  | cons token tokens ih =>
      cases token with
      | text data =>
          refine ih ?_
          intro c hc
          rw [String.toList_append, List.mem_append] at hc
          exact hc.elim (h c) not_isBlank_of_mem_unspacedText
      | startTag | endTag | fault => exact ⟨fun _ => seam_of_none h, ih hempty⟩
      | comment | doctype => exact ⟨seam_of_none h, ih hempty⟩

end ArticleTree.Html
