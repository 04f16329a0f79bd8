import ArticleTree.Proofs.Url.Percent
import ArticleTree.Url.Parse

/-! # Adding to a path

Not every text that is added to a path becomes a segment of its own: a dot and two dots add
nothing, and some characters are left out before the text is looked at as a segment, which may
then mean the path without its last segment. Apart from that a segment is added as it is written,
and a path that was read is kept as it is, but for an empty end.
-/

namespace ArticleTree.Url

/-! ## Paths of files -/

variable {scheme : String} {path rest : List String}

theorem tidy_of_ne (h : scheme ≠ "file") (path : List String) : tidy scheme path = path := by
  rw [tidy, beq_eq_false_iff_ne.2 h]
  rfl

theorem tidy_cons {first : String} (h : first ≠ "") (rest : List String) :
    tidy scheme (first :: rest) = first :: rest := by
  rw [tidy, List.dropWhile_cons_of_neg (by simpa using h)]
  simp

/-- A path is tidy if it does not begin with an empty segment, or has no other. -/
theorem tidy_cases (scheme : String) (path : List String) :
    scheme ≠ "file" ∨ tidy scheme path = [""] ∨
      ∃ first rest, tidy scheme path = first :: rest ∧ first ≠ "" := by
  by_cases hfile : scheme = "file"
  · right
    rw [tidy, hfile, beq_self_eq_true, if_pos rfl]
    cases hkept : path.dropWhile (· == "") with
    | nil => exact .inl rfl
    | cons first rest =>
        have hfirst : first ≠ "" := by
          have hhead := List.head?_dropWhile_not (· == "") path
          rw [hkept] at hhead
          simpa using hhead
        exact .inr ⟨first, rest, rfl, hfirst⟩
  · exact .inl hfile

theorem tidy_tidy (scheme : String) (path : List String) :
    tidy scheme (tidy scheme path) = tidy scheme path := by
  rcases tidy_cases scheme path with hfile | hroot | ⟨first, rest, hpath, hfirst⟩
  · exact tidy_of_ne hfile _
  · rw [hroot, tidy]
    simp
  · rw [hpath, tidy_cons hfirst]

theorem tidy_afterAuthority {authority : Authority} {cs : List Char}
    (h : (afterAuthority scheme authority cs).path = .segments path) : tidy scheme path = path := by
  by_cases hfile : scheme = "file"
  · rw [afterAuthority, Path.segments.injEq] at h
    subst h
    split
    · subst hfile
      decide +kernel
    · split
      · exact tidy_tidy ..
      · exact tidy_tidy ..
  · exact tidy_of_ne hfile path

theorem exists_of_readFile {cs : List Char} {url : Url} (h : readFile cs = .ok url) :
    ∃ authority rest, url = afterAuthority "file" authority rest := by
  unfold readFile at h
  split at h
  · rename_i a b rest
    by_cases hslashes : (isSlash true a && isSlash true b) = true
    · rw [if_pos hslashes] at h
      dsimp only at h
      split at h
      · cases h
        exact ⟨_, _, rfl⟩
      · simp only [bind, Except.bind] at h
        split at h
        · cases h
        · cases h
          exact ⟨_, _, rfl⟩
    · rw [if_neg hslashes] at h
      cases h
      exact ⟨_, _, rfl⟩
  · cases h
    exact ⟨_, _, rfl⟩

theorem scheme_of_fromAuthority {cs : List Char} {url : Url}
    (h : fromAuthority scheme cs = .ok url) : url.scheme = scheme := by
  simp only [fromAuthority, bind, Except.bind] at h
  split at h
  · cases h
  · cases h
    rfl

/-- The path of a URL that was read is tidy. -/
theorem tidy_of_parse {text : String} {url : Url} (h : parse text = .ok url)
    (hpath : url.path = .segments path) : tidy url.scheme path = path := by
  rw [parse] at h
  split at h
  · rename_i scheme cs hscheme
    unfold afterScheme at h
    split_ifs at h with hfile hspecial
    · obtain ⟨authority, rest, rfl⟩ := exists_of_readFile h
      exact tidy_afterAuthority hpath
    · rw [scheme_of_fromAuthority h, tidy_of_ne (by simpa using hfile)]
    · split at h
      · rw [scheme_of_fromAuthority h, tidy_of_ne (by simpa using hfile)]
      · cases h
        have hscheme : (withoutAuthority scheme cs).scheme = scheme := rfl
        exact tidy_of_ne (by simpa [hscheme] using hfile) path
  · cases h

/-- The path stays as it is, whatever is added to it. -/
def Solid (scheme : String) (path : List String) : Prop :=
  ∀ added, tidy scheme (path ++ added) = path ++ added

theorem Solid.append (h : Solid scheme path) (more : List String) :
    Solid scheme (path ++ more) := by
  intro added
  rw [List.append_assoc, h]

theorem solid_cons {first : String} (h : first ≠ "") (rest : List String) :
    Solid scheme (first :: rest) :=
  fun _ => tidy_cons h _

/-! ## What a text adds -/

/-- What a text adds to a path. -/
inductive Addition where
  | nothing
  /-- The last segment is taken away, and an empty one comes after what is left. -/
  | up
  | segment (cs : List Char)
  deriving DecidableEq

def additionOf (text : String) : Addition :=
  if text = "." ∨ text = ".." then .nothing
  else
    let cs := text.toList.filter (!isDropped ·)
    if cs = ['.'] then .segment [] else if cs = ['.', '.'] then .up else .segment cs

/-- The path with its last segment, after something was added to it. -/
def Addition.apply (set : EncodeSet) (before : List String) (last : String) :
    Addition → List String
  | nothing => before ++ [last]
  | up => before ++ [""]
  | segment cs => before ++ [last, .ofList (encode set cs)]

theorem Addition.length_apply (addition : Addition) (set : EncodeSet) (before : List String)
    (last : String) : (addition.apply set before last).length ≤ before.length + 2 := by
  cases addition <;> simp [apply]

/-- The text is added as it is. -/
structure IsPlain (text : String) : Prop where
  kept : ∀ c ∈ text.toList, isDropped c = false
  notDot : text ≠ "."
  notDots : text ≠ ".."

theorem additionOf_eq_segment {text : String} :
    additionOf text = .segment text.toList ↔ IsPlain text := by
  constructor
  · intro h
    rw [additionOf] at h
    dsimp only at h
    split_ifs at h with hdots hdot hup
    · rw [not_or] at hdots
      rw [Addition.segment.injEq] at h
      rw [← h] at hdot
      cases hdot
    · rw [not_or] at hdots
      rw [Addition.segment.injEq, List.filter_eq_self] at h
      exact ⟨fun c hc => by simpa using h c hc, hdots.1, hdots.2⟩
  · intro h
    have hkept : text.toList.filter (!isDropped ·) = text.toList := by
      rw [List.filter_eq_self]
      intro c hc
      rw [h.kept c hc, Bool.not_false]
    have hdot : text.toList ≠ ['.'] := fun heq => h.notDot (String.toList_inj.1 heq)
    have hdots : text.toList ≠ ['.', '.'] := fun heq => h.notDots (String.toList_inj.1 heq)
    rw [additionOf, if_neg (not_or.2 ⟨h.notDot, h.notDots⟩)]
    dsimp only
    rw [hkept, if_neg hdot, if_neg hdots]

/-- What is written as an escape in a segment that is added. -/
def addedSet (scheme : String) : EncodeSet :=
  if isSpecialScheme scheme then EncodeSet.specialSegment else EncodeSet.segment

theorem addedSet_percent (scheme : String) : addedSet scheme '%' = true := by
  rw [addedSet]
  split <;> decide

theorem addedSet_dot (scheme : String) : addedSet scheme '.' = false := by
  rw [addedSet]
  split <;> decide

theorem shorten_concat (h : path ≠ []) (last : String) :
    shorten scheme (path ++ [last]) = path := by
  cases path with
  | nil => exact absurd rfl h
  | cons first rest =>
      rw [shorten, List.dropLast_concat]
      intro drive heq
      simp at heq

theorem pushSegment_eq (hsolid : Solid scheme path) (hpath : path ≠ []) (last text : String) :
    pushSegment scheme (path ++ [last]) text =
      (additionOf text).apply (addedSet scheme) path last := by
  have hroot : (path ++ [last] == [""]) = false := by
    rw [beq_eq_false_iff_ne]
    intro heq
    exact hpath (by simpa using congrArg List.length heq)
  rw [pushSegment, additionOf]
  simp only [hroot, Bool.or_eq_true, beq_iff_eq, ← addedSet.eq_1, Bool.false_eq_true, if_false]
  by_cases hdots : text = "." ∨ text = ".."
  · rw [if_pos hdots, if_pos hdots]
    rfl
  · rw [if_neg hdots, if_neg hdots, step]
    generalize text.toList.filter (!isDropped ·) = cs
    by_cases hup : cs = ['.', '.']
    · rw [if_pos ((isDoubleDot_encode (addedSet_percent _) (addedSet_dot _)).2 hup)]
      subst hup
      rw [shorten_concat hpath]
      exact hsolid _
    · rw [if_neg fun h => hup ((isDoubleDot_encode (addedSet_percent _) (addedSet_dot _)).1 h)]
      by_cases hdot : cs = ['.']
      · rw [if_pos ((isSingleDot_encode (addedSet_percent _) (addedSet_dot _)).2 hdot)]
        subst hdot
        change tidy scheme (path ++ [last] ++ [""]) = path ++ [last, ""]
        rw [List.append_assoc]
        exact hsolid _
      · rw [if_neg fun h => hdot ((isSingleDot_encode (addedSet_percent _) (addedSet_dot _)).1 h),
          if_neg hdot, if_neg hup]
        have hdrive : (path ++ [last]).isEmpty = false := by simp
        rw [hdrive, Bool.and_false, Bool.false_and, if_neg Bool.false_ne_true, List.append_assoc]
        exact hsolid _

end ArticleTree.Url
