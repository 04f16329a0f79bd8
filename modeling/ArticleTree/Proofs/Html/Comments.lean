import ArticleTree.Proofs.Html.Seams
import ArticleTree.Proofs.Html.Words

/-! # Comments between texts

A comment or a document type leaves nothing in the tree, but it ends a chunk of text, and chunks
are put into their normal form one by one. So blanks next to a comment are not what they would be
without it: a chunk of blanks alone goes away, and runs of blanks on both sides stay two. All else
is the same. Two builders, one of which reads the tokens without the comments, are compared
stretch by stretch.
-/

namespace ArticleTree.Html

open Text (solid)

/-- Make one text of texts that follow each other. -/
def mergeTexts : List Token → List Token
  | [] => []
  | .text data :: rest =>
      match mergeTexts rest with
      | .text next :: rest => .text (data ++ next) :: rest
      | rest => .text data :: rest
  | token :: rest => token :: mergeTexts rest

/-- The tokens without comments and document types, and with one text where these stood between
    several. -/
def joined (tokens : List Token) : List Token :=
  mergeTexts (withoutSilent tokens)

/-! ## Merging -/

/-- A builder waits for the end of a text itself. -/
theorem foldlM_mergeTexts (tokens : List Token) (b : Builder) :
    (mergeTexts tokens).foldlM Builder.step b = tokens.foldlM Builder.step b := by
  induction tokens generalizing b with
  | nil => rfl
  | cons token tokens ih =>
      cases token with
      | text data =>
          have hrest := ih { b with pending := b.pending ++ data }
          change _ = tokens.foldlM Builder.step { b with pending := b.pending ++ data }
          rw [← hrest, mergeTexts]
          split
          · rename_i next rest hmerged
            rw [hmerged, List.foldlM_cons, List.foldlM_cons, Builder.step, Builder.step,
              String.append_assoc]
          · rfl
      | _ => simp only [mergeTexts, List.foldlM_cons, ih]

theorem textsFrom_mergeTexts (first : Bool) (text : List Char) (pending : String)
    (tokens : List Token) :
    textsFrom first text pending (mergeTexts tokens) = textsFrom first text pending tokens := by
  induction tokens generalizing first text pending with
  | nil => rfl
  | cons token tokens ih =>
      cases token with
      | text data =>
          rw [textsFrom, ← ih, mergeTexts]
          split
          · rename_i next rest hmerged
            rw [hmerged, textsFrom, textsFrom, String.append_assoc]
          · rfl
      | _ => simp only [mergeTexts, textsFrom, ih]

namespace Builder.Stretch

/-! ## The same texts -/

/-- With the same texts between them, the tags do the same. -/
theorem outcome_withoutSilent {tokens : List Token} {s t : Stretch} (hbase : s.base = t.base)
    (htexts : s.texts tokens = t.texts (withoutSilent tokens)) :
    s.builder.outcome tokens = t.builder.outcome (withoutSilent tokens) := by
  -- The bases stay equal at every tag, while the chunks of the stretch that is read may differ.
  induction tokens generalizing s t with
  | nil =>
      have hfirst : trimmed s.base.atStart false s.full = trimmed t.base.atStart false t.full :=
        (List.cons.inj htexts).1
      rw [withoutSilent_nil, outcome_nil, outcome_nil, write_full, write_full, hfirst, hbase]
  | cons token tokens ih =>
      cases token with
      | text data =>
          rw [withoutSilent_cons rfl, outcome_text, outcome_text]
          exact ih hbase htexts
      | startTag name attrs selfClosing =>
          rw [withoutSilent_cons rfl, texts_startTag, texts_startTag] at htexts
          obtain ⟨hfirst, hrest⟩ := List.cons.inj htexts
          rw [withoutSilent_cons rfl, outcome_startTag, outcome_startTag]
          refine ih ?_ hrest
          rw [base_started, base_started, write_full, write_full, hfirst, hbase]
      | endTag name =>
          obtain ⟨hfirst, hrest⟩ := List.cons.inj htexts
          rw [withoutSilent_cons rfl, outcome_endTag, outcome_endTag]
          change trimmed _ true s.full = trimmed _ true t.full at hfirst
          rw [hfirst, hbase]
          cases hclose : (t.base.put (trimmed t.base.atStart true t.full)).closeElement name with
          | error unbalanced => rfl
          | ok c =>
              have hbehind := ih (s := t.behind hclose) (t := t.behind hclose) rfl
              rw [texts_behind, texts_behind, builder_behind] at hbehind
              exact hbehind hrest
      | comment | doctype =>
          rw [outcome_mark s (by simp)]
          exact ih (s := s.cut) hbase htexts
      | fault =>
          rw [withoutSilent_cons rfl, outcome_mark s (by simp), outcome_mark t (by simp)]
          exact ih (s := s.cut) (t := t.cut) hbase htexts

/-! ## The same nodes -/

section SameNodes

variable {s t : Stretch} {name : String}

theorem trimmed_eq_nil_iff (hsolid : solid s.full = solid t.full) (first first' last : Bool) :
    trimmed first last s.full = [] ↔ trimmed first' last t.full = [] := by
  rw [s.worded_full.trimmed_eq_nil, t.worded_full.trimmed_eq_nil, hsolid]

/-- What a start tag leaves tells what was there before. -/
theorem sameParts_of_started {attrs : Attributes} {selfClosing : Bool}
    (hsolid : solid s.full = solid t.full)
    (h : SameParts (s.started name attrs selfClosing).base
      (t.started name attrs selfClosing).base) :
    SameParts s.base t.base ∧
      trimmed s.base.atStart false s.full = trimmed t.base.atStart false t.full := by
  have hwritten : SameParts (s.base.write s.full) (t.base.write t.full) := by
    rw [base_started, base_started] at h
    split at h
    · exact h.of_push.1
    · exact h.of_openElement
  rw [write_full, write_full] at hwritten
  exact hwritten.of_put (trimmed_eq_nil_iff hsolid ..)

/-- What an end tag leaves tells what was there before. -/
theorem sameParts_of_closeElement {c d : Builder} (hsolid : solid s.full = solid t.full)
    (hc : (s.base.put (trimmed s.base.atStart true s.full)).closeElement name = .ok c)
    (hd : (t.base.put (trimmed t.base.atStart true t.full)).closeElement name = .ok d)
    (h : SameParts c d) :
    SameParts s.base t.base ∧
      trimmed s.base.atStart true s.full = trimmed t.base.atStart true t.full := by
  have hs := s.fresh.trimLastText_put (dropBlanksAtEnd_trimmed s.base.atStart s.full)
  have ht := t.fresh.trimLastText_put (dropBlanksAtEnd_trimmed t.base.atStart t.full)
  exact (SameParts.of_closeElement hs ht hc hd h).of_put (trimmed_eq_nil_iff hsolid ..)

end SameNodes

/-- The nodes tell what became of the texts. -/
theorem texts_of_outcome {tokens : List Token} {s t : Stretch} {nodes : Forest}
    (hstart : s.base.atStart = t.base.atStart) (hsolid : solid s.full = solid t.full)
    (h : s.builder.outcome tokens = .ok nodes)
    (h' : t.builder.outcome (withoutSilent tokens) = .ok nodes) :
    SameParts s.base t.base ∧ s.texts tokens = t.texts (withoutSilent tokens) := by
  -- From the end backwards: the nodes are what both builders finish with, and every tag hands on
  -- what it was given. That no text is missing in one of them follows from the words.
  induction tokens generalizing s t with
  | nil =>
      rw [outcome_nil, write_full, finish_eq_ok (by simp [s.nothingPending])] at h
      rw [withoutSilent_nil, outcome_nil, write_full,
        finish_eq_ok (by simp [t.nothingPending])] at h'
      have hput : SameParts (s.base.put (trimmed s.base.atStart false s.full))
          (t.base.put (trimmed t.base.atStart false t.full)) :=
        ⟨List.reverse_inj.1 (h.2.trans h'.2.symm), h.1.trans h'.1.symm⟩
      obtain ⟨hbase, hfirst⟩ := SameParts.of_put (trimmed_eq_nil_iff hsolid ..) hput
      exact ⟨hbase, congrArg (· :: []) hfirst⟩
  | cons token tokens ih =>
      cases token with
      | text data =>
          refine ih (s := s.more data) (t := t.more data) hstart ?_ h h'
          rw [solid_full_more, solid_full_more, hsolid]
      | startTag name attrs selfClosing =>
          rw [outcome_startTag] at h
          rw [withoutSilent_cons rfl, outcome_startTag] at h'
          have hstart' : (s.started name attrs selfClosing).base.atStart =
              (t.started name attrs selfClosing).base.atStart := by
            rw [atStart_started, atStart_started]
          have hsolid' : solid (s.started name attrs selfClosing).full =
              solid (t.started name attrs selfClosing).full := by
            rw [full_started, full_started]
          obtain ⟨hsame, hrest⟩ := ih hstart' hsolid' h h'
          obtain ⟨hbase, hfirst⟩ := sameParts_of_started hsolid hsame
          refine ⟨hbase, ?_⟩
          rw [withoutSilent_cons rfl, texts_startTag, texts_startTag, hfirst, hrest]
      | endTag name =>
          rw [outcome_endTag, bind_eq_ok] at h
          rw [withoutSilent_cons rfl, outcome_endTag, bind_eq_ok] at h'
          obtain ⟨c, hc, houtcome⟩ := h
          obtain ⟨d, hd, houtcome'⟩ := h'
          rw [← builder_behind s hc] at houtcome
          rw [← builder_behind t hd] at houtcome'
          have hstart' : (s.behind hc).base.atStart = (t.behind hd).base.atStart :=
            (atStart_of_closeElement hc).trans (atStart_of_closeElement hd).symm
          obtain ⟨hsame, hrest⟩ := ih hstart' rfl houtcome houtcome'
          rw [texts_behind, texts_behind] at hrest
          obtain ⟨hbase, hfirst⟩ := sameParts_of_closeElement hsolid hc hd hsame
          exact ⟨hbase, congrArg₂ List.cons hfirst hrest⟩
      | comment | doctype =>
          rw [outcome_mark s (by simp)] at h
          exact ih (s := s.cut) hstart (by rw [full_cut, hsolid]) h h'
      | fault =>
          rw [outcome_mark s (by simp)] at h
          rw [withoutSilent_cons rfl, outcome_mark t (by simp)] at h'
          exact ih (s := s.cut) (t := t.cut) hstart (by rw [full_cut, full_cut, hsolid]) h h'

end Builder.Stretch

/-! ## Without comments -/

open Builder.Stretch

theorem forestOf_joined (tokens : List Token) :
    forestOf (joined tokens) = forestOf (withoutSilent tokens) := by
  unfold forestOf
  rw [joined, foldlM_mergeTexts]

theorem texts_joined (tokens : List Token) :
    texts (joined tokens) = texts (withoutSilent tokens) :=
  textsFrom_mergeTexts ..

theorem texts_joined_of_tidy {tokens : List Token} (h : Tidy tokens) :
    texts (joined tokens) = texts tokens := by
  have htexts : textsFrom true ([] ++ settled "") "" tokens = texts (withoutSilent tokens) :=
    textsFrom_of_tidy h worded_nil fun _ => rfl
  exact (texts_joined tokens).trans htexts.symm

/-- The same texts make the same nodes. -/
theorem forestOf_joined_of_texts {tokens : List Token}
    (h : texts (joined tokens) = texts tokens) : forestOf (joined tokens) = forestOf tokens := by
  rw [texts_joined, ← texts_beginning, ← texts_beginning] at h
  rw [forestOf_joined, ← outcome_beginning, ← outcome_beginning]
  exact (outcome_withoutSilent rfl h.symm).symm

/-- The same nodes were made of the same texts. -/
theorem texts_joined_of_forestOf {tokens : List Token} {nodes : Forest}
    (h : forestOf tokens = .ok nodes) (hjoined : forestOf (joined tokens) = .ok nodes) :
    texts (joined tokens) = texts tokens := by
  rw [← outcome_beginning] at h
  rw [forestOf_joined, ← outcome_beginning] at hjoined
  rw [texts_joined, ← texts_beginning, ← texts_beginning]
  exact (texts_of_outcome rfl rfl h hjoined).2.symm

/-- Comments make no difference to what is not blank. -/
theorem unspaced_forestOf_joined (tokens : List Token) :
    (forestOf (joined tokens)).map unspaced = (forestOf tokens).map unspaced := by
  have htidy : Tidy (tokens.map Token.unspaced) := tidyFrom_unspaced (by simp)
  have hsame := forestOf_joined_of_texts (texts_joined_of_tidy htidy)
  rw [forestOf_joined, withoutSilent_unspaced] at hsame
  rw [forestOf_joined, ← forestOf_unspaced, ← forestOf_unspaced, hsame]

theorem forestOf_joined_of_error {tokens : List Token} {unbalanced : Unbalanced}
    (h : forestOf tokens = .error unbalanced) :
    forestOf (joined tokens) = .error unbalanced := by
  have hunspaced := unspaced_forestOf_joined tokens
  rw [h] at hunspaced
  cases hjoined : forestOf (joined tokens) with
  | error unbalanced' =>
      rw [hjoined] at hunspaced
      cases hunspaced
      rfl
  | ok nodes =>
      rw [hjoined] at hunspaced
      cases hunspaced

theorem ofTokens_congr {xs ys : List Token} (h : forestOf xs = forestOf ys) :
    ofTokens xs = ofTokens ys := by
  rw [ofTokens, ofTokens, h]

theorem map_ofTokens_congr {f : Forest → Forest} {xs ys : List Token}
    (h : (forestOf xs).map f = (forestOf ys).map f) :
    (ofTokens xs).map f = (ofTokens ys).map f := by
  have hmap (tokens : List Token) : (ofTokens tokens).map f =
      ((forestOf tokens).map f).mapError fun unbalanced => .markup unbalanced.message := by
    unfold ofTokens
    cases forestOf tokens <;> rfl
  rw [hmap, hmap, h]

/-- It makes no difference how a text is cut into pieces. Without its comments and document
    types, a token list is refused for the same reason, or its nodes have the same texts up to
    blanks. The nodes are the same exactly if the stretches of text between tags become the
    same, which they do if no comment has blanks on both sides or blanks alone on one. -/
theorem ofTokens_joined (tokens : List Token) :
    ofTokens (mergeTexts tokens) = ofTokens tokens ∧
      (ofTokens (joined tokens)).map unspaced = (ofTokens tokens).map unspaced ∧
      (ofTokens (joined tokens) = ofTokens tokens ↔
        (∀ nodes, ofTokens tokens ≠ .ok nodes) ∨ texts (joined tokens) = texts tokens) ∧
      (Tidy tokens → ofTokens (joined tokens) = ofTokens tokens) := by
  have hmerged : forestOf (mergeTexts tokens) = forestOf tokens := by
    rw [forestOf, forestOf, foldlM_mergeTexts]
  have htidy (h : Tidy tokens) : ofTokens (joined tokens) = ofTokens tokens :=
    ofTokens_congr (forestOf_joined_of_texts (texts_joined_of_tidy h))
  refine ⟨ofTokens_congr hmerged, ?_, ?_, htidy⟩
  · exact map_ofTokens_congr (unspaced_forestOf_joined tokens)
  · cases hforest : forestOf tokens with
    | error unbalanced =>
        refine iff_of_true ?_ (.inl ?_)
        · exact ofTokens_congr ((forestOf_joined_of_error hforest).trans hforest.symm)
        · intro nodes hok
          rw [ofTokens_eq_ok, hforest] at hok
          cases hok
    | ok nodes =>
        have hok : ofTokens tokens = .ok nodes := ofTokens_eq_ok.2 hforest
        constructor
        · intro hsame
          exact .inr (texts_joined_of_forestOf hforest (ofTokens_eq_ok.1 (hsame.trans hok)))
        · rintro (hnone | htexts)
          · exact absurd hok (hnone nodes)
          · exact ofTokens_congr (forestOf_joined_of_texts htexts)

/-- A comment with a blank on one side only. -/
def commentedParagraph : List Token :=
  [.startTag "p" ∅ false, .text " one", .comment, .text " two", .endTag "p"]

theorem ofTokens_joined_commentedParagraph :
    Tidy commentedParagraph ∧
      ofTokens (joined commentedParagraph) = ofTokens commentedParagraph := by
  have htidy : Tidy commentedParagraph := by
    simp only [Tidy, commentedParagraph, TidyFrom]
    decide
  exact ⟨htidy, (ofTokens_joined commentedParagraph).2.2.2 htidy⟩

/-- Blanks on both sides of a comment stay both. -/
theorem ofTokens_joined_blanksAroundComment :
    ofTokens (joined [.text "a ", .comment, .text " b"]) ≠
      ofTokens [.text "a ", .comment, .text " b"] := by
  have hcut : ofTokens [.text "a ", .comment, .text " b"] = .ok [.text "a  b"] := by rfl
  have hjoined : ofTokens (joined [.text "a ", .comment, .text " b"]) = .ok [.text "a b"] := by rfl
  rw [hcut, hjoined]
  simp

end ArticleTree.Html
