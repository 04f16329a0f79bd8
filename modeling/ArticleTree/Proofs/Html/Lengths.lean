import ArticleTree.Proofs.Html.Nodes
import ArticleTree.Proofs.Keyed
import ArticleTree.Proofs.Text.Affix

/-! # Attributes are no longer than the text

No character reference stands for more characters than it is written with. So a value that is
read is no longer than what it is read from, and that is at most all that the tokenizer has read.
-/

namespace ArticleTree.Html

/-! ## References -/

theorem length_charsOf_le (points : List Char) : (charsOf points).length ≤ 2 := by
  unfold charsOf
  split <;> simp

theorem mem_readTable {words : List (List Char)} {entry : NamedReference}
    (h : entry ∈ readTable words) : entry.name ∈ words ∧ entry.chars.length ≤ 2 := by
  fun_induction readTable words with
  | case1 name points rest ih =>
      rcases List.mem_cons.1 h with rfl | h
      · exact ⟨List.mem_cons_self, length_charsOf_le points⟩
      · exact (ih h).imp_left fun hmem => List.mem_cons_of_mem _ (List.mem_cons_of_mem _ hmem)
  | case2 => cases h

/-- A name has a character, and stands for two at most. -/
theorem length_chars_le {entry : NamedReference} (h : entry ∈ namedReferences) :
    entry.chars.length ≤ entry.name.length + 1 := by
  unfold namedReferences at h
  obtain ⟨hname, hchars⟩ := mem_readTable h
  have hne := (List.mem_filter.1 hname).2
  cases hchar : entry.name with
  | nil => simp [hchar] at hne
  | cons c cs =>
      rw [List.length_cons]
      omega

/-- A name that is found stands in the list, or was found before. -/
theorem foldl_longerName? {cs rest : List Char} {entry : NamedReference}
    {entries : List NamedReference} {best : Option (NamedReference × List Char)}
    (h : entries.foldl (longerName? cs) best = some (entry, rest)) :
    best = some (entry, rest) ∨ entry ∈ entries ∧ cs = entry.name ++ rest := by
  induction entries generalizing best with
  | nil => exact .inl h
  | cons first entries ih =>
      rcases ih h with hbest | ⟨hmem, hcs⟩
      · unfold longerName? at hbest
        split at hbest
        · exact .inl hbest
        · rename_i rest' hdrop
          have hfirst : some (first, rest') = some (entry, rest) →
              entry ∈ first :: entries ∧ cs = entry.name ++ rest := by
            intro heq
            cases heq
            exact ⟨List.mem_cons_self, Text.dropStart?_eq_some.1 hdrop⟩
          split at hbest
          · split at hbest
            · exact .inr (hfirst hbest)
            · exact .inl hbest
          · exact .inr (hfirst hbest)
      · exact .inr ⟨List.mem_cons_of_mem _ hmem, hcs⟩

theorem length_readNumber_le (base seen : Nat) (cs : List Char) :
    (readNumber base seen cs).2.length ≤ cs.length := by
  induction cs generalizing seen with
  | nil => exact Nat.le_refl 0
  | cons c cs ih =>
      rw [readNumber]
      split
      · exact Nat.le_succ_of_le (ih _)
      · exact Nat.le_refl _

theorem length_numbered?_le {base : Nat} {cs chars rest : List Char}
    (h : numbered? base cs = some (chars, rest)) : chars.length + rest.length ≤ cs.length + 1 := by
  unfold numbered? at h
  split at h
  · cases h
  · split at h
    · cases h
    · rename_i c cs _
      dsimp only at h
      cases h
      have hrest := length_readNumber_le base 0 (c :: cs)
      split
      · rw [List.length_tail, List.length_singleton]
        omega
      · rw [List.length_singleton]
        omega

theorem length_named?_le {inAttribute : Bool} {cs chars rest : List Char}
    (h : named? inAttribute cs = some (chars, rest)) :
    chars.length + rest.length ≤ cs.length + 1 := by
  obtain ⟨⟨entry, rest'⟩, hname, h⟩ := Option.bind_eq_some_iff.1 h
  obtain ⟨hmem, hcs⟩ := (foldl_longerName? hname).resolve_left (by simp)
  have hchars := length_chars_le hmem
  dsimp only at h
  split at h
  · cases h
  · cases h
    rw [hcs, List.length_append]
    omega

/-- What is referred to is no longer than the reference with its ampersand. -/
theorem length_reference?_le {inAttribute : Bool} {cs chars rest : List Char}
    (h : reference? inAttribute cs = some (chars, rest)) :
    chars.length + rest.length ≤ cs.length + 1 := by
  unfold reference? at h
  split at h
  · exact (length_numbered?_le h).trans (by simp)
  · exact (length_numbered?_le h).trans (by simp)
  · exact (length_numbered?_le h).trans (by simp)
  · exact length_named?_le h

theorem length_resolveWithin_le (inAttribute : Bool) (steps : Nat) (cs : List Char) :
    (resolveWithin inAttribute steps cs).length ≤ cs.length := by
  induction steps generalizing cs with
  | zero => exact Nat.le_refl _
  | succ steps ih =>
      cases cs with
      | nil => exact Nat.le_refl _
      | cons c cs =>
          rw [resolveWithin]
          split
          · split
            · rename_i chars rest href
              have hlength := length_reference?_le href
              have hrest := ih rest
              rw [List.length_append, List.length_cons]
              omega
            · exact Nat.succ_le_succ (ih cs)
          · exact Nat.succ_le_succ (ih cs)

theorem length_resolve_le (inAttribute : Bool) (cs : List Char) :
    (resolve inAttribute cs).length ≤ cs.length :=
  length_resolveWithin_le inAttribute cs.length cs

/-! ## Attributes -/

/-- The values are no longer than this. -/
def AttrsWithin (n : Nat) (attrs : Attributes) : Prop :=
  ∀ entry ∈ attrs.entries, entry.2.length ≤ n

theorem AttrsWithin.mono {m n : Nat} {attrs : Attributes} (h : AttrsWithin m attrs) (hle : m ≤ n) :
    AttrsWithin n attrs :=
  fun entry hentry => (h entry hentry).trans hle

theorem attrsWithin_empty (n : Nat) : AttrsWithin n ∅ := by
  intro entry hentry
  cases hentry

theorem AttrsWithin.insertNew {n : Nat} {attrs : Attributes} (h : AttrsWithin n attrs)
    (name : String) {value : String} (hvalue : value.length ≤ n) :
    AttrsWithin n (attrs.insertNew name value) := by
  unfold Attributes.insertNew
  split
  · exact h
  · intro entry hentry
    rcases Keyed.mem_insert hentry with rfl | hentry
    · exact hvalue
    · exact h entry hentry

/-! ## Tokens -/

namespace TagPlace

/-- What was read of the value so far. -/
def value : TagPlace → List Char
  | quotedValue _ _ value => value
  | bareValue _ value => value
  | _ => []

end TagPlace

/-- All values of the token are no longer than this. -/
def Token.Within (n : Nat) : Token → Prop
  | .startTag _ attrs _ => AttrsWithin n attrs
  | _ => True

/-- All values of the tag are no longer than this, and neither is the one that is being read. -/
def State.Within (n : Nat) : State → Prop
  | .tag begun place => AttrsWithin n begun.attrs ∧ place.value.length ≤ n
  | _ => True

def TagStep.Within (n : Nat) : TagStep → Prop
  | .more tag place => AttrsWithin n tag.attrs ∧ place.value.length ≤ n
  | .complete tag _ => AttrsWithin n tag.attrs

/-- All values that a tokenizer has read are no longer than this. -/
structure Tokenizer.Within (n : Nat) (m : Tokenizer) : Prop where
  tokens : ∀ token ∈ m.tokens, token.Within n
  state : m.state.Within n

namespace PartialTag

variable {n : Nat} {tag : PartialTag}

theorem within_commit (h : AttrsWithin n tag.attrs) (name : List Char) {value : List Char}
    (hvalue : value.length ≤ n) : AttrsWithin n (tag.commit name value).attrs := by
  refine h.insertNew _ ?_
  rw [String.length_ofList]
  have hresolve := length_resolve_le true value.reverse
  rw [List.length_reverse] at hresolve
  exact hresolve.trans hvalue

theorem within_startAttribute (h : AttrsWithin n tag.attrs) (c : Char) :
    (tag.startAttribute c).Within n := by
  unfold startAttribute
  split
  · exact ⟨h, Nat.zero_le n⟩
  · split
    · exact ⟨h, Nat.zero_le n⟩
    · split
      · exact h
      · exact ⟨h, Nat.zero_le n⟩

/-- A character makes a value one character longer. -/
theorem within_step (h : AttrsWithin n tag.attrs) {place : TagPlace}
    (hplace : place.value.length ≤ n) (c : Char) : (tag.step place c).Within (n + 1) := by
  have hnext : AttrsWithin (n + 1) tag.attrs := h.mono (Nat.le_succ n)
  have hempty (name : List Char) : AttrsWithin (n + 1) (tag.commit name []).attrs :=
    within_commit hnext name (Nat.zero_le _)
  have hcommit (name : List Char) : AttrsWithin (n + 1) (tag.commit name place.value).attrs :=
    within_commit hnext name (Nat.le_succ_of_le hplace)
  unfold step
  cases place with
  | beforeAttribute | afterValue => exact within_startAttribute hnext c
  | slash =>
      dsimp only
      split
      · exact hnext
      · exact within_startAttribute hnext c
  | name =>
      dsimp only
      repeat' split
      · exact ⟨hnext, Nat.zero_le _⟩
      · exact ⟨hnext, Nat.zero_le _⟩
      · exact hnext
      · exact ⟨hnext, Nat.zero_le _⟩
  | attributeName name =>
      dsimp only
      repeat' split
      · exact ⟨hnext, Nat.zero_le _⟩
      · exact ⟨hempty name, Nat.zero_le _⟩
      · exact hempty name
      · exact ⟨hnext, Nat.zero_le _⟩
      · exact ⟨hnext, Nat.zero_le _⟩
  | afterName name =>
      dsimp only
      repeat' split
      · exact ⟨hnext, Nat.zero_le _⟩
      · exact ⟨hnext, Nat.zero_le _⟩
      · exact within_startAttribute (hempty name) c
  | beforeValue name =>
      dsimp only
      repeat' split
      · exact ⟨hnext, Nat.zero_le _⟩
      · exact ⟨hnext, Nat.zero_le _⟩
      · exact hempty name
      · exact ⟨hnext, Nat.le_add_left 1 n⟩
  | quotedValue name quote value =>
      dsimp only
      split
      · exact ⟨hcommit name, Nat.zero_le _⟩
      · exact ⟨hnext, Nat.succ_le_succ hplace⟩
  | bareValue name value =>
      dsimp only
      repeat' split
      · exact ⟨hcommit name, Nat.zero_le _⟩
      · exact hcommit name
      · exact ⟨hnext, Nat.succ_le_succ hplace⟩

theorem within_token (h : AttrsWithin n tag.attrs) (selfClosing : Bool) :
    (tag.token selfClosing).Within n := by
  unfold token
  dsimp only
  split
  · exact trivial
  · exact h

end PartialTag

namespace Tokenizer

variable {n : Nat} {m : Tokenizer}

theorem Within.flush (h : m.Within n) : m.flush.Within n := by
  unfold Tokenizer.flush
  split
  · exact h
  · exact ⟨List.forall_mem_cons.2 ⟨trivial, h.tokens⟩, h.state⟩

theorem Within.emit (h : m.Within n) {token : Token} (htoken : token.Within n) :
    (m.emit token).Within n :=
  ⟨List.forall_mem_cons.2 ⟨htoken, h.flush.tokens⟩, trivial⟩

theorem Within.mono {k : Nat} (h : m.Within n) (hle : n ≤ k) : m.Within k where
  tokens token htoken := by
    have := h.tokens token htoken
    cases token with
    | startTag name attrs selfClosing => exact AttrsWithin.mono this hle
    | _ => trivial
  state := by
    have := h.state
    cases hstate : m.state with
    | tag begun place =>
        rw [hstate] at this
        exact ⟨this.1.mono hle, this.2.trans hle⟩
    | _ => trivial

/-- Character data and marks add no values. -/
theorem within_of_tokens {m' : Tokenizer} (h : m.Within n) (htokens : m'.tokens = m.tokens)
    (hstate : m'.state.Within n) : m'.Within n :=
  ⟨htokens ▸ h.tokens, hstate⟩

theorem within_declarationToken (n : Nat) (seen : List Char) :
    (declarationToken seen).Within n := by
  unfold declarationToken
  split <;> trivial

theorem Within.step (h : m.Within n) (c : Char) : (m.step c).Within (n + 1) := by
  have hnext : m.Within (n + 1) := h.mono (Nat.le_succ n)
  have hcontent (m' : Tokenizer) (htokens : m'.tokens = m.tokens) :
      (m'.readContent c).Within (n + 1) := by
    unfold readContent
    split
    · exact within_of_tokens hnext htokens trivial
    · exact within_of_tokens hnext htokens trivial
  have hopen (closing : Bool) (name : List Char) :
      State.Within (n + 1) (.tag ⟨closing, name, ∅⟩ .name) :=
    ⟨attrsWithin_empty _, Nat.zero_le _⟩
  unfold Tokenizer.step
  split
  · exact hcontent m rfl
  · repeat' split
    · exact within_of_tokens hnext rfl trivial
    · exact within_of_tokens hnext rfl trivial
    · exact within_of_tokens hnext rfl (hopen ..)
    · exact within_of_tokens hnext rfl trivial
    · exact hcontent _ rfl
  · repeat' split
    · exact within_of_tokens hnext rfl (hopen ..)
    · exact within_of_tokens hnext.flush rfl trivial
    · exact within_of_tokens hnext rfl trivial
  · rename_i tag place hstate
    have hread := h.state
    rw [hstate] at hread
    have hstep := PartialTag.within_step hread.1 hread.2 c
    split
    · rename_i heq
      rw [heq] at hstep
      exact within_of_tokens hnext rfl hstep
    · rename_i heq
      rw [heq] at hstep
      exact hnext.emit (PartialTag.within_token hstep _)
  · repeat' split
    · exact hnext.emit (within_declarationToken _ _)
    · exact within_of_tokens hnext rfl trivial
    · exact within_of_tokens hnext rfl trivial
  · split
    · exact within_of_tokens hnext rfl trivial
    · exact hnext.emit trivial
  · split
    · exact hnext.emit trivial
    · exact hnext

theorem Within.foldl (h : m.Within n) (cs : List Char) :
    (cs.foldl Tokenizer.step m).Within (n + cs.length) := by
  induction cs generalizing m n with
  | nil => exact h
  | cons c cs ih =>
      rw [List.length_cons, Nat.add_comm cs.length, ← Nat.add_assoc]
      exact ih (h.step c)

theorem Within.finish (h : m.Within n) : ∀ token ∈ m.finish, token.Within n := by
  have hreverse {m' : Tokenizer} (h : m'.Within n) : ∀ token ∈ m'.tokens.reverse, token.Within n :=
    fun token htoken => h.tokens token (List.mem_reverse.1 htoken)
  unfold Tokenizer.finish
  refine hreverse ?_
  split
  · exact h.flush
  · exact Within.flush (within_of_tokens h rfl h.state)
  · exact Within.flush (within_of_tokens h rfl h.state)
  · exact h.flush
  · exact h.emit (within_declarationToken n _)
  · exact h.emit trivial
  · exact h.emit trivial

end Tokenizer

theorem length_normalizeNewlines_le (cs : List Char) :
    (normalizeNewlines cs).length ≤ cs.length := by
  fun_induction normalizeNewlines cs with
  | case1 cs ih => exact Nat.le_succ_of_le (Nat.succ_le_succ ih)
  | case2 cs _ ih => exact Nat.succ_le_succ ih
  | case3 c cs _ _ ih => exact Nat.succ_le_succ ih
  | case4 => exact Nat.le_refl 0

/-- The value of an attribute is no longer than the text. -/
theorem within_tokenize {html : String} {token : Token} (h : token ∈ tokenize html) :
    token.Within html.length := by
  have hstart : Tokenizer.start.Within 0 := ⟨by simp [Tokenizer.start], trivial⟩
  have hend := (hstart.foldl (normalizeNewlines html.toList)).mono
    ((Nat.zero_add _).trans_le (length_normalizeNewlines_le html.toList))
  exact String.length_toList ▸ hend.finish token h

/-- The values of the node's attributes are no longer than this. -/
def ValuesWithin (n : Nat) (node : Node) : Prop :=
  ∀ key value, node.attr? key = some value → value.length ≤ n

/-- No element of parsed HTML has a value that is longer than the HTML. -/
theorem everywhere_valuesWithin {html : String} {nodes : Forest} (h : parse html = .ok nodes) :
    Everywhere (ValuesWithin html.length) nodes := by
  refine everywhere_ofTokens ⟨?_, ?_⟩ h
  · intro data key value hvalue
    cases hvalue
  · intro name attrs selfClosing htoken children key value hvalue
    exact within_tokenize htoken (key, value) (Keyed.mem_of_get? hvalue)

end ArticleTree.Html
