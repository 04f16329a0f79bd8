import ArticleTree.Digest.Stable
import ArticleTree.Proofs.Keyed

/-! # Calls with the same key

The key of a call is a digest of joined digests, some of which are such digests again. Each text
that is hashed on the way can be taken apart: digests are not empty and have no bar in them, so a
joined sequence shows its elements and how many there are; they are of one length, so an entry
shows where its key ends and its value begins; and sorting entries only moves them. So calls that
differ get keys that differ, unless two different texts had the same digest.
-/

namespace ArticleTree.Digest

/-! ## What digests look like -/

/-- Sixty-four hexadecimal digits in lower case. -/
structure IsHash (hash : String) : Prop where
  length : hash.toList.length = 64
  digits : ∀ c ∈ hash.toList, c ∈ "0123456789abcdef".toList

/-- All digests are hashes. -/
def Hexadecimal (digest : String → String) : Prop :=
  ∀ text, IsHash (digest text)

theorem digitChar_mem {n : Nat} (h : n < 16) : n.digitChar ∈ "0123456789abcdef".toList := by
  revert n
  decide

theorem mem_hexByte {byte : UInt8} {c : Char} (h : c ∈ hexByte byte) :
    c ∈ "0123456789abcdef".toList := by
  have hbyte : byte.toNat < 256 := byte.toNat_lt
  simp only [hexByte, List.mem_cons, List.not_mem_nil, or_false] at h
  rcases h with rfl | rfl
  · apply digitChar_mem
    omega
  · apply digitChar_mem
    omega

theorem length_sha256 (message : List UInt8) : (sha256 message).length = 32 := by
  simp [sha256, Words.toList, bigEndian]

theorem length_flatMap_hexByte (bytes : List UInt8) :
    (bytes.flatMap hexByte).length = 2 * bytes.length := by
  induction bytes with
  | nil => rfl
  | cons byte bytes ih =>
      rw [List.flatMap_cons, List.length_append, ih, List.length_cons]
      simp only [hexByte, List.length_cons, List.length_nil]
      omega

theorem hexadecimal_ofText : Hexadecimal ofText := by
  intro text
  constructor
  · rw [ofText, String.toList_ofList, length_flatMap_hexByte, length_sha256]
  · intro c hc
    rw [ofText, String.toList_ofList, List.mem_flatMap] at hc
    obtain ⟨byte, _, hc⟩ := hc
    exact mem_hexByte hc

namespace IsHash

theorem toList_ne_nil {hash : String} (h : IsHash hash) : hash.toList ≠ [] := by
  intro hnil
  have hlength := h.length
  rw [hnil] at hlength
  cases hlength

theorem bar_notMem {hash : String} (h : IsHash hash) : '|' ∉ hash.toList := by
  intro hbar
  exact absurd (h.digits '|' hbar) (by decide)

end IsHash

/-! ## Taking hashed texts apart -/

/-- The parts of joined hashes. There is no empty hash, so no hashes are told from one. -/
theorem splitOn_intercalate_hashes {hashes : List String} (h : ∀ hash ∈ hashes, IsHash hash) :
    ("|".intercalate hashes).toList.splitOn '|' =
      if hashes = [] then [[]] else hashes.map String.toList := by
  have hbar : "|".toList = ['|'] := rfl
  rw [String.toList_intercalate, hbar]
  split
  · rename_i hnil
    subst hnil
    rfl
  · rename_i hne
    refine List.splitOn_intercalate '|' ?_ (by simpa using hne)
    intro chars hchars
    obtain ⟨hash, hmem, rfl⟩ := List.mem_map.1 hchars
    exact (h hash hmem).bar_notMem

theorem eq_of_intercalate_eq {xs ys : List String} (hx : ∀ x ∈ xs, IsHash x)
    (hy : ∀ y ∈ ys, IsHash y) (h : "|".intercalate xs = "|".intercalate ys) : xs = ys := by
  have hparts : (if xs = [] then [[]] else xs.map String.toList) =
      if ys = [] then [[]] else ys.map String.toList := by
    rw [← splitOn_intercalate_hashes hx, ← splitOn_intercalate_hashes hy, h]
  have hempty {zs : List String} (hz : ∀ z ∈ zs, IsHash z) :
      [[]] ≠ zs.map String.toList := by
    intro heq
    have hmem : [] ∈ zs.map String.toList := by rw [← heq]; simp
    obtain ⟨z, hz', hnil⟩ := List.mem_map.1 hmem
    exact (hz z hz').toList_ne_nil hnil
  split at hparts
  · rename_i hxnil
    split at hparts
    · rename_i hynil
      exact hxnil.trans hynil.symm
    · exact absurd hparts (hempty hy)
  · split at hparts
    · exact absurd hparts.symm (hempty hx)
    · exact List.map_injective_iff.2 (fun s t => String.toList_inj.1) hparts

theorem eq_of_pairText_eq {k k' v v' : String} (hk : IsHash k) (hk' : IsHash k')
    (h : pairText k v = pairText k' v') : k = k' ∧ v = v' := by
  have hchars : '<' :: (k.toList ++ ';' :: (v.toList ++ ['>'])) =
      '<' :: (k'.toList ++ ';' :: (v'.toList ++ ['>'])) := by
    simpa [pairText, String.toList_append] using congrArg String.toList h
  obtain ⟨hkey, hrest⟩ := List.append_inj (List.cons.inj hchars).2 (hk.length.trans hk'.length.symm)
  obtain ⟨hvalue, _⟩ := List.append_inj' (List.cons.inj hrest).2 rfl
  exact ⟨String.toList_inj.1 hkey, String.toList_inj.1 hvalue⟩

/-! ## Texts with digests of their own -/

/-- No two different texts among these have the same digest. -/
def Apart (digest : String → String) (texts : List String) : Prop :=
  ∀ s ∈ texts, ∀ t ∈ texts, digest s = digest t → s = t

variable {digest : String → String}

instance (digest : String → String) (texts : List String) : Decidable (Apart digest texts) :=
  inferInstanceAs (Decidable (∀ s ∈ texts, ∀ t ∈ texts, digest s = digest t → s = t))

theorem Apart.mono {texts others : List String} (h : Apart digest texts) (hsub : others ⊆ texts) :
    Apart digest others :=
  fun s hs t ht => h s (hsub hs) t (hsub ht)

theorem Apart.eq_of_map_eq {xs ys : List String} (h : Apart digest (xs ++ ys))
    (heq : xs.map digest = ys.map digest) : xs = ys := by
  induction xs generalizing ys with
  | nil => exact (List.map_eq_nil_iff.1 heq.symm).symm
  | cons x xs ih =>
      cases ys with
      | nil => cases heq
      | cons y ys =>
          obtain ⟨hhead, htail⟩ := List.cons.inj heq
          have hsame : x = y := h x (by simp) y (by simp) hhead
          have hrest : xs = ys := by
            refine ih (h.mono ?_) htail
            intro s hs
            rcases List.mem_append.1 hs with hs | hs
            · simp [hs]
            · simp [hs]
          rw [hsame, hrest]

/-! ## The texts that are hashed -/

/-- The texts that are hashed for a sequence of texts: each of them, and what joins their
    hashes. -/
def sequenceTexts (digest : String → String) (texts : List String) : List String :=
  texts ++ ["|".intercalate (texts.map digest)]

/-- An entry of a mapping from texts to texts, as it is hashed. -/
def entryText (digest : String → String) (entry : String × String) : String :=
  pairText (digest entry.1) (digest entry.2)

/-- The entries of a mapping, as they are hashed and in the order in which they are. -/
def entryTexts (digest : String → String) (entries : List (String × String)) : List String :=
  (entries.map (entryText digest)).mergeSort fun a b => decide (a ≤ b)

/-- The texts that are hashed for a mapping: keys and values, and the sequence of its entries. -/
def mappingTexts (digest : String → String) (entries : List (String × String)) : List String :=
  (entries.flatMap fun entry => [entry.1, entry.2]) ++
    sequenceTexts digest (entryTexts digest entries)

theorem ofPairs_map (entries : List (String × String)) :
    ofPairs digest (entries.map fun (key, value) => (digest key, digest value)) =
      ofSequence digest ((entryTexts digest entries).map digest) := by
  simp only [ofPairs, entryTexts, List.map_map]
  rfl

/-- The same hash is the hash of the same sequence. -/
theorem eq_of_ofSequence_eq (hdigest : Hexadecimal digest) {xs ys : List String}
    (h : Apart digest (sequenceTexts digest xs ++ sequenceTexts digest ys))
    (heq : ofSequence digest (xs.map digest) = ofSequence digest (ys.map digest)) : xs = ys := by
  have hhash (zs : List String) : ∀ hash ∈ zs.map digest, IsHash hash := by
    intro hash hmem
    obtain ⟨text, _, rfl⟩ := List.mem_map.1 hmem
    exact hdigest text
  have hjoined : "|".intercalate (xs.map digest) = "|".intercalate (ys.map digest) :=
    h _ (by simp [sequenceTexts]) _ (by simp [sequenceTexts]) heq
  refine (h.mono ?_).eq_of_map_eq (eq_of_intercalate_eq (hhash xs) (hhash ys) hjoined)
  intro s hs
  rcases List.mem_append.1 hs with hs | hs
  · simp [sequenceTexts, hs]
  · simp [sequenceTexts, hs]

theorem eq_of_entryText_eq (hdigest : Hexadecimal digest) {texts : List String}
    (h : Apart digest texts) {a b : String × String} (ha : a.1 ∈ texts ∧ a.2 ∈ texts)
    (hb : b.1 ∈ texts ∧ b.2 ∈ texts) (heq : entryText digest a = entryText digest b) : a = b := by
  obtain ⟨hkey, hvalue⟩ := eq_of_pairText_eq (hdigest a.1) (hdigest b.1) heq
  exact Prod.ext (h _ ha.1 _ hb.1 hkey) (h _ ha.2 _ hb.2 hvalue)

theorem mem_mappingTexts {entries : List (String × String)} {entry : String × String}
    (h : entry ∈ entries) :
    entry.1 ∈ mappingTexts digest entries ∧ entry.2 ∈ mappingTexts digest entries := by
  constructor
  · exact List.mem_append_left _ (List.mem_flatMap.2 ⟨entry, h, by simp⟩)
  · exact List.mem_append_left _ (List.mem_flatMap.2 ⟨entry, h, by simp⟩)

/-- Mappings with the same hash have the same entries, whatever their order. -/
theorem subset_of_ofPairs_eq (hdigest : Hexadecimal digest) {xs ys : List (String × String)}
    (h : Apart digest (mappingTexts digest xs ++ mappingTexts digest ys))
    (heq : ofPairs digest (xs.map fun (key, value) => (digest key, digest value)) =
      ofPairs digest (ys.map fun (key, value) => (digest key, digest value))) : xs ⊆ ys := by
  have hentries : entryTexts digest xs = entryTexts digest ys := by
    rw [ofPairs_map, ofPairs_map] at heq
    refine eq_of_ofSequence_eq hdigest (h.mono ?_) heq
    exact List.append_subset.2
      ⟨fun s hs => by simp [mappingTexts, hs], fun s hs => by simp [mappingTexts, hs]⟩
  have hperm : (xs.map (entryText digest)).Perm (ys.map (entryText digest)) :=
    calc
      (xs.map (entryText digest)).Perm (entryTexts digest xs) := (List.mergeSort_perm _ _).symm
      _ = entryTexts digest ys := hentries
      List.Perm _ (ys.map (entryText digest)) := List.mergeSort_perm _ _
  intro entry hx
  obtain ⟨other, hy, hsame⟩ := List.mem_map.1
    (hperm.subset (List.mem_map_of_mem (f := entryText digest) hx))
  have hkey := @mem_mappingTexts digest xs entry hx
  have hkey' := @mem_mappingTexts digest ys other hy
  have hentry : other = entry := by
    refine eq_of_entryText_eq hdigest h ?_ ?_ hsame
    · exact ⟨List.mem_append_right _ hkey'.1, List.mem_append_right _ hkey'.2⟩
    · exact ⟨List.mem_append_left _ hkey.1, List.mem_append_left _ hkey.2⟩
  exact hentry ▸ hy

/-! ## Calls -/

/-- A call of a function by name. -/
@[ext]
structure NamedCall where
  function : String
  args : List String
  /-- Named arguments, by ascending name. -/
  named : List (String × String)
  ascending : Keyed.Ascending named

namespace NamedCall

/-- The key of the call. -/
def key (digest : String → String) (call : NamedCall) : String :=
  ofCall digest call.function call.args call.named

/-- What joins the hashes of the three parts. -/
def joined (digest : String → String) (call : NamedCall) : String :=
  "|".intercalate
    [digest call.function, ofSequence digest (call.args.map digest),
      ofPairs digest (call.named.map fun (key, value) => (digest key, digest value))]

/-- The texts that are hashed for the key. -/
def texts (digest : String → String) (call : NamedCall) : List String :=
  call.function :: sequenceTexts digest call.args ++ mappingTexts digest call.named ++
    [call.joined digest]

/-- No other text matters to the key. -/
theorem key_congr {call : NamedCall} {other : String → String}
    (h : ∀ text ∈ call.texts digest, other text = digest text) :
    call.key other = call.key digest := by
  have hmapping (s : String) (hs : s ∈ mappingTexts digest call.named) : other s = digest s :=
    h s (by simp [texts, hs])
  have hfunction : other call.function = digest call.function := h _ (by simp [texts])
  have hargs : call.args.map other = call.args.map digest := by
    apply List.map_congr_left
    intro text htext
    exact h text (by simp [texts, sequenceTexts, htext])
  have hentries : entryTexts other call.named = entryTexts digest call.named := by
    have hmap : call.named.map (entryText other) = call.named.map (entryText digest) := by
      apply List.map_congr_left
      intro entry hentry
      obtain ⟨hkey, hvalue⟩ := @mem_mappingTexts digest call.named entry hentry
      rw [entryText, entryText, hmapping _ hkey, hmapping _ hvalue]
    rw [entryTexts, entryTexts, hmap]
  have hnamed : ofPairs other (call.named.map fun (key, value) => (other key, other value)) =
      ofPairs digest (call.named.map fun (key, value) => (digest key, digest value)) := by
    have hmap : (entryTexts digest call.named).map other =
        (entryTexts digest call.named).map digest := by
      apply List.map_congr_left
      intro text htext
      exact hmapping text (by simp [mappingTexts, sequenceTexts, htext])
    rw [ofPairs_map, ofPairs_map, hentries, ofSequence, ofSequence, hmap]
    exact hmapping _ (by simp [mappingTexts, sequenceTexts])
  have hsequence : ofSequence other (call.args.map digest) =
      ofSequence digest (call.args.map digest) :=
    h _ (by simp [texts, sequenceTexts])
  rw [key, ofCall, hfunction, hargs, hnamed, hsequence]
  exact h _ (by simp [texts, joined])

/-- A digest that keeps the hashed texts apart keeps the calls apart. -/
theorem eq_of_key_eq (hdigest : Hexadecimal digest) {a b : NamedCall}
    (h : Apart digest (a.texts digest ++ b.texts digest)) (heq : a.key digest = b.key digest) :
    a = b := by
  have hparts (call : NamedCall) : ∀ hash ∈ [digest call.function,
      ofSequence digest (call.args.map digest),
      ofPairs digest (call.named.map fun (key, value) => (digest key, digest value))],
      IsHash hash := by
    intro hash hmem
    simp only [List.mem_cons, List.not_mem_nil, or_false] at hmem
    rcases hmem with rfl | rfl | rfl
    · exact hdigest _
    · exact hdigest _
    · exact hdigest _
  have hjoined : a.joined digest = b.joined digest :=
    h _ (by simp [texts]) _ (by simp [texts]) heq
  have hhashes := eq_of_intercalate_eq (hparts a) (hparts b) hjoined
  simp only [List.cons.injEq, and_true] at hhashes
  obtain ⟨hfunction, hargs, hnamed⟩ := hhashes
  have hsequences : Apart digest (sequenceTexts digest a.args ++ sequenceTexts digest b.args) :=
    h.mono (List.append_subset.2
      ⟨fun s hs => by simp [texts, hs], fun s hs => by simp [texts, hs]⟩)
  have hmappings : Apart digest (mappingTexts digest a.named ++ mappingTexts digest b.named) :=
    h.mono (List.append_subset.2
      ⟨fun s hs => by simp [texts, hs], fun s hs => by simp [texts, hs]⟩)
  have hmappings' : Apart digest (mappingTexts digest b.named ++ mappingTexts digest a.named) :=
    hmappings.mono (List.append_subset.2
      ⟨List.subset_append_right _ _, List.subset_append_left _ _⟩)
  apply NamedCall.ext
  · exact h _ (by simp [texts]) _ (by simp [texts]) hfunction
  · exact eq_of_ofSequence_eq hdigest hsequences hargs
  · exact a.ascending.eq_of_subset b.ascending (subset_of_ofPairs_eq hdigest hmappings hnamed)
      (subset_of_ofPairs_eq hdigest hmappings' hnamed.symm)

/-- The program's digests are hashes. With any digest of that kind, two calls that differ get the
    same key only if two different texts among those that are hashed for the keys have the same
    digest. Where there are no such texts, a key tells its function, its arguments with their order
    and number, and its named arguments. -/
theorem key_separates :
    Hexadecimal ofText ∧
      ∀ digest, Hexadecimal digest → ∀ a b : NamedCall,
        (a ≠ b → a.key digest = b.key digest →
            ∃ s ∈ a.texts digest ++ b.texts digest, ∃ t ∈ a.texts digest ++ b.texts digest,
              s ≠ t ∧ digest s = digest t) ∧
          (Apart digest (a.texts digest ++ b.texts digest) →
            (a.key digest = b.key digest ↔ a = b)) := by
  refine ⟨hexadecimal_ofText, ?_⟩
  intro digest hdigest a b
  constructor
  · intro hne hkey
    by_contra hnone
    refine hne (eq_of_key_eq hdigest ?_ hkey)
    intro s hs t ht hsame
    by_contra hdiffer
    exact hnone ⟨s, hs, t, ht, hdiffer, hsame⟩
  · intro hapart
    constructor
    · intro hkey
      exact eq_of_key_eq hdigest hapart hkey
    · rintro rfl
      rfl

/-- Two arguments. -/
def positional : NamedCall := ⟨"render_html", ["a", "b"], [], Keyed.ascending_nil⟩

/-- One argument with a name. -/
def labelled : NamedCall := ⟨"render_html", [], [("a", "b")], by decide⟩

/-- The last digits, from right to left, of the number that the bytes of a text are in base 257. -/
def numeral (text : String) : String :=
  let number := text.toUTF8.data.toList.foldl (fun n byte => 257 * n + byte.toNat) 0
  .ofList ((List.range 64).map fun i => (number / Nat.pow 16 i % 16).digitChar)

/-- A digest that keeps nothing apart. -/
def zeros (_ : String) : String :=
  .ofList (List.replicate 64 '0')

theorem hexadecimal_numeral : Hexadecimal numeral := by
  intro text
  constructor
  · rw [numeral, String.toList_ofList, List.length_map, List.length_range]
  · intro c hc
    rw [numeral, String.toList_ofList] at hc
    obtain ⟨i, _, rfl⟩ := List.mem_map.1 hc
    exact digitChar_mem (Nat.mod_lt _ (by omega))

theorem hexadecimal_zeros : Hexadecimal zeros := by
  intro text
  have hzeros : (zeros text).toList = List.replicate 64 '0' := String.toList_ofList
  constructor
  · rw [hzeros, List.length_replicate]
  · intro c hc
    rw [hzeros] at hc
    rw [List.eq_of_mem_replicate hc]
    decide

theorem key_separates_positionalAndLabelled :
    (Apart numeral (positional.texts numeral ++ labelled.texts numeral) ∧
        positional.key numeral ≠ labelled.key numeral) ∧
      positional ≠ labelled ∧ positional.key zeros = labelled.key zeros ∧
        ∃ s ∈ positional.texts zeros ++ labelled.texts zeros,
          ∃ t ∈ positional.texts zeros ++ labelled.texts zeros, s ≠ t ∧ zeros s = zeros t := by
  have hdiffer : positional ≠ labelled := by
    intro heq
    cases congrArg args heq
  have hapart : Apart numeral (positional.texts numeral ++ labelled.texts numeral) := by
    decide +kernel
  have hnumeral := (key_separates.2 numeral hexadecimal_numeral positional labelled).2 hapart
  have hzeros := (key_separates.2 zeros hexadecimal_zeros positional labelled).1 hdiffer rfl
  exact ⟨⟨hapart, fun hkey => hdiffer (hnumeral.1 hkey)⟩, hdiffer, rfl, hzeros⟩

end NamedCall

end ArticleTree.Digest
