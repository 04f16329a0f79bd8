import ArticleTree.Proofs.Url.Additions
import ArticleTree.Wiki.Client

/-! # The URL that markup is rendered at

Below the address that is set, a URL names the article that markup is rendered for. A title that
is added as it is can be read off the URL again, so different titles have different URLs. But a
dot and two dots are titles that the URL does not name, and tabs and line breaks are not in it.
-/

namespace ArticleTree.Wiki

open Url

variable {scheme : String} {base path : List String} {word : String}

/-! ## The path -/

/-- What the segments are added to: the path without an empty segment at its end, and nothing for
    the path of a root. -/
def baseOf (path : List String) : List String :=
  if withoutEmptyEnd path = [""] then [] else withoutEmptyEnd path

/-- The segments that say what is done with the markup. -/
def renderWords : List String :=
  ["transform", "wikitext", "to", "html"]

theorem pushSegment_word (hword : word ∈ renderWords) (path : List String) :
    pushSegment scheme path word =
      tidy scheme ((if path = [""] then [] else path) ++ [word]) := by
  have hplain : ∀ word ∈ renderWords, (word == "." || word == "..") = false ∧
      isDoubleDot word = false ∧ isSingleDot word = false ∧ isDriveLetter word = false := by
    decide
  have hwritten : ∀ set ∈ [EncodeSet.specialSegment, EncodeSet.segment], ∀ word ∈ renderWords,
      String.ofList (encode set (word.toList.filter (!isDropped ·))) = word := by
    simp only [List.forall_mem_cons, List.not_mem_nil, false_implies, implies_true, and_true]
    decide
  have hset : addedSet scheme ∈ [EncodeSet.specialSegment, EncodeSet.segment] := by
    rw [addedSet]
    split <;> simp
  obtain ⟨hdots, hup, hdot, hdrive⟩ := hplain word hword
  rw [pushSegment, hdots, if_neg Bool.false_ne_true, ← addedSet.eq_1]
  dsimp only
  rw [hwritten _ hset word hword, step, hup, hdot, hdrive]
  simp

theorem baseOf_cons {first : String} (h : first ≠ "") (rest : List String) :
    ∃ kept, baseOf (first :: rest) = first :: kept := by
  have hroot : ∀ kept, first :: kept ≠ [""] := by
    intro kept heq
    exact h (List.cons.inj heq).1
  rw [baseOf, withoutEmptyEnd]
  split
  · rename_i hlong
    cases rest with
    | nil => simp at hlong
    | cons second rest =>
        rw [List.dropLast_cons_cons, if_neg (hroot _)]
        exact ⟨_, rfl⟩
  · rw [if_neg (hroot _)]
    exact ⟨_, rfl⟩

/-- The path of a URL that was read does not come to begin with empty segments by what is added
    to it. -/
theorem solid_baseOf (h : tidy scheme path = path) (hword : word ≠ "") :
    Solid scheme (baseOf path ++ [word]) := by
  rcases tidy_cases scheme path with hfile | hroot | ⟨first, rest, hpath, hfirst⟩
  · exact fun _ => tidy_of_ne hfile _
  · rw [← h, hroot]
    exact solid_cons hword []
  · obtain ⟨kept, hkept⟩ := baseOf_cons hfirst rest
    rw [← h, hpath, hkept]
    exact solid_cons hfirst _

theorem Solid.pushSegment_word {last : String} (h : Solid scheme (path ++ [last]))
    (hlast : last ≠ "") (hword : word ∈ renderWords) :
    pushSegment scheme (path ++ [last]) word = path ++ [last, word] := by
  have hroot : path ++ [last] ≠ [""] := by
    intro heq
    have hend := congrArg List.getLast? heq
    rw [List.getLast?_concat] at hend
    exact hlast (Option.some.inj hend)
  rw [Wiki.pushSegment_word hword, if_neg hroot, h, List.append_assoc]
  rfl

/-- The path of the URL that markup is rendered at. -/
theorem foldl_pushSegment (h : tidy scheme path = path) (title : String) :
    (["transform", "wikitext", "to", "html", title]).foldl (pushSegment scheme)
        (withoutEmptyEnd path) =
      (additionOf title).apply (addedSet scheme) (baseOf path ++ ["transform", "wikitext", "to"])
        "html" := by
  have hsolid : Solid scheme (baseOf path ++ ["transform"]) := solid_baseOf h (by decide)
  have hfirst : pushSegment scheme (withoutEmptyEnd path) "transform" =
      baseOf path ++ ["transform"] := by
    rw [pushSegment_word (by decide), ← baseOf]
    exact List.append_nil (baseOf path ++ ["transform"]) ▸ hsolid []
  have hsecond : pushSegment scheme (baseOf path ++ ["transform"]) "wikitext" =
      baseOf path ++ ["transform"] ++ ["wikitext"] := by
    rw [Solid.pushSegment_word hsolid (by decide) (by decide), List.append_assoc]
    rfl
  have hthird : pushSegment scheme (baseOf path ++ ["transform"] ++ ["wikitext"]) "to" =
      baseOf path ++ ["transform", "wikitext"] ++ ["to"] := by
    rw [Solid.pushSegment_word (hsolid.append _) (by decide) (by decide)]
    simp
  have hfourth : pushSegment scheme (baseOf path ++ ["transform", "wikitext"] ++ ["to"]) "html" =
      baseOf path ++ ["transform", "wikitext", "to"] ++ ["html"] := by
    have hlong : Solid scheme (baseOf path ++ ["transform", "wikitext"] ++ ["to"]) := by
      simpa using hsolid.append ["wikitext", "to"]
    rw [Solid.pushSegment_word hlong (by decide) (by decide)]
    simp
  have hlong : Solid scheme (baseOf path ++ ["transform", "wikitext", "to"]) := by
    simpa using hsolid.append ["wikitext", "to"]
  simp only [List.foldl_cons, List.foldl_nil, hfirst, hsecond, hthird, hfourth]
  exact pushSegment_eq hlong (by simp) "html" title

/-! ## Reading the title off the path -/

/-- The path without an empty segment at its end. -/
def withoutEmptyLast (path : List String) : List String :=
  if path.getLast? = some "" then path.dropLast else path

/-- The path is that of the base, the words, and one segment that the title can be read off. -/
def Carries (base : List String) (title : String) (path : List String) : Prop :=
  ∃ segment : String, path = withoutEmptyLast base ++ renderWords ++ [segment] ∧
    Url.decode segment.toList = Text.bytes title

/-- Only two empty segments are both taken off. -/
theorem baseOf_eq (path : List String) :
    path = ["", ""] ∨ path ≠ ["", ""] ∧ baseOf path = withoutEmptyLast path := by
  by_cases hdouble : path = ["", ""]
  · exact .inl hdouble
  · refine .inr ⟨hdouble, ?_⟩
    rw [baseOf, withoutEmptyEnd, withoutEmptyLast]
    by_cases hlast : path.getLast? = some ""
    · obtain ⟨before, rfl⟩ := List.getLast?_eq_some_iff.1 hlast
      cases before with
      | nil => rfl
      | cons first before =>
          have hlong : (2 ≤ (first :: before ++ [""]).length &&
              (first :: before ++ [""]).getLast? == some "") = true := by
            rw [hlast]
            simp
          have hbefore : first :: before ≠ [""] := by
            intro heq
            rw [heq] at hdouble
            exact hdouble rfl
          rw [if_pos hlong, if_pos hlast, List.dropLast_concat, if_neg hbefore]
    · have hroot : path ≠ [""] := by
        rintro rfl
        exact hlast rfl
      have hshort : ¬ (2 ≤ path.length && path.getLast? == some "") = true := by
        simp [hlast]
      rw [if_neg hshort, if_neg hlast, if_neg hroot]

theorem carries_iff {set : EncodeSet} (hset : set '%' = true) (base : List String)
    (title : String) :
    Carries base title ((additionOf title).apply set
        (baseOf base ++ ["transform", "wikitext", "to"]) "html") ↔
      base ≠ ["", ""] ∧ IsPlain title := by
  rw [← additionOf_eq_segment]
  rcases baseOf_eq base with rfl | ⟨hbase, hkept⟩
  · -- Both empty segments are missing, so the path is too short.
    refine iff_of_false ?_ (fun h => h.1 rfl)
    rintro ⟨segment, hpath, -⟩
    have hshort := (additionOf title).length_apply set
      (baseOf ["", ""] ++ ["transform", "wikitext", "to"]) "html"
    rw [hpath, List.length_append, List.length_singleton] at hshort
    exact absurd hshort (by decide)
  · rw [Carries, hkept, and_iff_right hbase]
    constructor
    · rintro ⟨segment, hpath, hdecode⟩
      have hlength := congrArg List.length hpath
      cases hadded : additionOf title with
      | nothing => simp [hadded, Addition.apply, renderWords] at hlength
      | up => simp [hadded, Addition.apply, renderWords] at hlength
      | segment cs =>
          have hsegment : .ofList (encode set cs) = segment := by
            simpa [hadded, Addition.apply, renderWords] using hpath
          rw [← hsegment, String.toList_ofList, decode_encode hset, Text.bytes_eq,
            Text.flatMap_utf8EncodeChar_inj] at hdecode
          rw [hdecode]
    · intro hadded
      refine ⟨.ofList (encode set title.toList), by simp [hadded, Addition.apply, renderWords], ?_⟩
      rw [String.toList_ofList, decode_encode hset, Text.bytes_eq]

/-! ## Different titles -/

theorem Path.toList_print (path : List String) : (Path.segments path).print.toList =
    path.flatMap fun segment => '/' :: segment.toList := by
  rw [Path.print, String.toList_join, List.flatMap_map]
  refine List.flatMap_congr fun segment _ => ?_
  rw [String.toList_append]
  rfl

/-- What stands around the path in a URL does not depend on what comes after the first two segments
    of the path. -/
theorem exists_print (url : Url) {before : List String} (hbefore : 2 ≤ before.length) :
    ∃ lead tail, ∀ added, ({ url with path := .segments (before ++ added) } : Url).print =
      lead ++ (Path.segments (before ++ added)).print ++ tail := by
  obtain ⟨first, second, rest, rfl⟩ : ∃ first second rest, before = first :: second :: rest := by
    match before, hbefore with
    | first :: second :: rest, _ => exact ⟨first, second, rest, rfl⟩
  obtain ⟨scheme, authority, path, query, fragment⟩ := url
  suffices h : ∃ lead tail, ∀ added,
      print ⟨scheme, authority, .segments (first :: second :: rest ++ added), query, fragment⟩ =
        scheme ++ (":" ++ (lead ++
          ((Path.segments (first :: second :: rest ++ added)).print ++ tail))) by
    obtain ⟨lead, tail, hlead⟩ := h
    refine ⟨scheme ++ ":" ++ lead, tail, fun added => ?_⟩
    simp only [hlead added, String.append_assoc]
  simp only [print, String.append_assoc]
  cases authority with
  | some authority => exact ⟨authority.print, _, fun _ => rfl⟩
  | none =>
      by_cases hfirst : first = ""
      · subst hfirst
        exact ⟨"/.", _, fun _ => rfl⟩
      · refine ⟨"", ?_⟩
        apply Exists.intro
        intro added
        split
        · rename_i hnone
          cases hnone
        · rename_i hpath
          exact absurd (List.cons.inj (Path.segments.inj hpath)).1 hfirst
        · rfl

/-- URLs that only differ behind the first two segments of the path are written differently
    there. -/
theorem print_inj (url : Url) {before : List String} (hbefore : 2 ≤ before.length)
    {added more : List String} :
    ({ url with path := .segments (before ++ added) } : Url).print =
        ({ url with path := .segments (before ++ more) } : Url).print ↔
      (Path.segments added).print = (Path.segments more).print := by
  obtain ⟨lead, tail, hprint⟩ := exists_print url hbefore
  rw [hprint, hprint, String.append_left_inj, String.append_right_inj, ← String.toList_inj,
    ← String.toList_inj]
  simp only [Path.toList_print, List.flatMap_append, List.append_cancel_left_eq]

/-- How what is added is written. -/
def writtenAddition (set : EncodeSet) : Addition → List Char
  | .nothing => ['/', 'h', 't', 'm', 'l']
  | .up => ['/']
  | .segment cs => ['/', 'h', 't', 'm', 'l', '/'] ++ encode set cs

theorem writtenAddition_inj {set : EncodeSet} (hset : set '%' = true) {a b : Addition} :
    writtenAddition set a = writtenAddition set b ↔ a = b := by
  refine ⟨fun h => ?_, fun h => by rw [h]⟩
  cases a with
  | nothing => cases b with
    | nothing => rfl
    | up => simp [writtenAddition] at h
    | segment cs => simp [writtenAddition] at h
  | up => cases b with
    | nothing => simp [writtenAddition] at h
    | up => rfl
    | segment cs => simp [writtenAddition] at h
  | segment cs => cases b with
    | nothing => simp [writtenAddition] at h
    | up => simp [writtenAddition] at h
    | segment ds =>
        rw [writtenAddition, writtenAddition, List.append_cancel_left_eq, encode_inj hset] at h
        rw [h]

theorem exists_added (set : EncodeSet) (before : List String) (addition : Addition) :
    ∃ added, addition.apply set before "html" = before ++ added ∧
      (Path.segments added).print.toList = writtenAddition set addition := by
  cases addition with
  | nothing => exact ⟨["html"], rfl, rfl⟩
  | up => exact ⟨[""], rfl, rfl⟩
  | segment cs =>
      refine ⟨["html", .ofList (encode set cs)], rfl, ?_⟩
      rw [Path.toList_print]
      simp [writtenAddition]

/-- URLs of additions to one path are written alike if and only if the additions are the same. -/
theorem apply_print_inj {set : EncodeSet} (hset : set '%' = true) (url : Url)
    {before : List String} (hbefore : 2 ≤ before.length) {a b : Addition} :
    ({ url with path := .segments (a.apply set before "html") } : Url).print =
        ({ url with path := .segments (b.apply set before "html") } : Url).print ↔ a = b := by
  obtain ⟨added, happly, hadded⟩ := exists_added set before a
  obtain ⟨more, happly', hmore⟩ := exists_added set before b
  rw [happly, happly', print_inj url hbefore, ← String.toList_inj, hadded, hmore,
    writtenAddition_inj hset]

/-! ## The whole -/

variable {client : Client} {text : String}

theorem renderUrl_eq (hparse : Url.parse text = .ok client.rest)
    (hbase : client.rest.path = .segments base) (title : String) :
    client.renderUrl title = .ok { client.rest with
      path := .segments ((additionOf title).apply (addedSet client.rest.scheme)
        (baseOf base ++ ["transform", "wikitext", "to"]) "html") } := by
  rw [Client.renderUrl, extend?, hbase]
  dsimp only
  rw [foldl_pushSegment (tidy_of_parse hparse hbase)]

/-- Below an address that was read, the markup of every title is sent to a URL that differs from the
    address in the path alone. The path is that of the address, the words, and one segment that
    the title can be read off, exactly if the title is added as it is, and the path of the address
    is not just two empty segments. The URLs of two titles are written alike exactly if they add
    the same to a path; titles that are added as they are have different URLs. -/
theorem renderUrl_carries_title (hparse : Url.parse text = .ok client.rest)
    (hbase : client.rest.path = .segments base) :
    (∀ title, ∃ path, ∃ url : Url, url = { client.rest with path := .segments path } ∧
      client.renderUrl title = .ok url ∧
      (∀ {m : Type → Type} [Monad m] (send : Http.Request → m (Option Http.Response)) markup,
        ∃ read, client.renderHtml send title markup =
          Client.ask send url (Client.renderRequest url markup) read) ∧
      (∀ markup, (Client.renderRequest url markup).url.path = .segments path) ∧
      (Carries base title path ↔ base ≠ ["", ""] ∧ IsPlain title)) ∧
    (∀ title other,
      (client.renderUrl title).map Url.print = (client.renderUrl other).map Url.print ↔
        additionOf title = additionOf other) ∧
    ∀ title other, IsPlain title → IsPlain other →
      (additionOf title = additionOf other ↔ title = other) := by
  refine ⟨fun title => ?_, fun title other => ?_, fun title other htitle hother => ?_⟩
  · refine ⟨_, _, rfl, renderUrl_eq hparse hbase title, fun send markup => ?_, fun _ => rfl,
      carries_iff (addedSet_percent _) base title⟩
    rw [Client.renderHtml, renderUrl_eq hparse hbase]
    exact ⟨_, rfl⟩
  · rw [renderUrl_eq hparse hbase, renderUrl_eq hparse hbase, Except.map, Except.map,
      Except.ok.injEq, apply_print_inj (addedSet_percent _) _ (by simp)]
  · rw [additionOf_eq_segment.2 htitle, additionOf_eq_segment.2 hother, Addition.segment.injEq,
      String.toList_inj]

/-- A wiki whose address ends with a slash. -/
def slashedClient : Client where
  api := ⟨"http", some ⟨"", none, .name "w", none⟩, .segments ["api.php"], none, none⟩
  rest := ⟨"http", some ⟨"", none, .name "w", none⟩, .segments ["api", ""], none, none⟩

theorem renderUrl_carries_title_slashed :
    Url.parse "http://w/api/" = .ok slashedClient.rest ∧
      slashedClient.rest.path = .segments ["api", ""] ∧ IsPlain "C/D: 1%?" ∧
      ∃ path, slashedClient.renderUrl "C/D: 1%?" =
          .ok { slashedClient.rest with path := .segments path } ∧
        Carries ["api", ""] "C/D: 1%?" path := by
  have hparse : Url.parse "http://w/api/" = .ok slashedClient.rest := by decide +kernel
  have hkept : "C/D: 1%?".toList.all (!isDropped ·) = true := by decide +kernel
  have hplain : IsPlain "C/D: 1%?" := ⟨by simpa using hkept, by decide, by decide⟩
  obtain ⟨path, url, rfl, hurl, -, -, hcarries⟩ :=
    (renderUrl_carries_title hparse rfl).1 "C/D: 1%?"
  exact ⟨hparse, rfl, hplain, path, hurl, hcarries.2 ⟨by decide, hplain⟩⟩

/-- The tab of a title is not in its URL, which is that of another title. -/
theorem renderUrl_tabbed :
    Url.parse "http://w/api/" = .ok slashedClient.rest ∧ "a\tb" ≠ "ab" ∧ ∃ path,
      slashedClient.renderUrl "a\tb" = .ok { slashedClient.rest with path := .segments path } ∧
      slashedClient.renderUrl "ab" = .ok { slashedClient.rest with path := .segments path } ∧
      ¬ Carries ["api", ""] "a\tb" path := by
  refine ⟨by decide +kernel, by decide, ["api", "transform", "wikitext", "to", "html", "ab"],
    by decide +kernel, by decide +kernel, ?_⟩
  rintro ⟨segment, hpath, hdecode⟩
  obtain rfl : "ab" = segment := by simpa [withoutEmptyLast, renderWords] using hpath
  revert hdecode
  decide +kernel

end ArticleTree.Wiki
