import ArticleTree.Json.Tree
import ArticleTree.Proofs.Keyed

/-! # Objects whose fields stand in another order

The fields of an object may come in any order. A reader asks for a field by its name, and
reads a map by sorting its keys; as long as no name stands there twice, it cannot see how the
fields were arranged.
-/

namespace ArticleTree

/-- A way of arranging the fields of objects. -/
structure Arrangement where
  fields : List (String × Json) → List (String × Json)
  perm : ∀ given, (fields given).Perm given

namespace Arrangement

/-- Fields stay where they are. -/
def asWritten : Arrangement where
  fields := id
  perm := .refl

/-- Fields by their names. -/
def byName : Arrangement where
  fields given := given.mergeSort fun a b => a.1 ≤ b.1
  perm given := List.mergeSort_perm given _

end Arrangement

namespace Json

mutual

/-- The value with the fields of all objects arranged. -/
def arranged (a : Arrangement) : Json → Json
  | array items => array (arrangedAll a items)
  | object fields => object (a.fields (arrangedFields a fields))
  | value => value

def arrangedAll (a : Arrangement) : List Json → List Json
  | [] => []
  | item :: items => item.arranged a :: arrangedAll a items

def arrangedFields (a : Arrangement) : List (String × Json) → List (String × Json)
  | [] => []
  | (name, value) :: fields => (name, value.arranged a) :: arrangedFields a fields

end

mutual

@[simp] theorem arranged_asWritten (value : Json) : value.arranged .asWritten = value := by
  cases value with
  | array items => rw [arranged, arrangedAll_asWritten items]
  | object fields =>
      rw [arranged, arrangedFields_asWritten fields]
      rfl
  | _ => rfl

theorem arrangedAll_asWritten (items : List Json) : arrangedAll .asWritten items = items := by
  cases items with
  | nil => rfl
  | cons item items => rw [arrangedAll, arranged_asWritten item, arrangedAll_asWritten items]

theorem arrangedFields_asWritten (fields : List (String × Json)) :
    arrangedFields .asWritten fields = fields := by
  cases fields with
  | nil => rfl
  | cons field fields =>
      rw [arrangedFields, arranged_asWritten field.2, arrangedFields_asWritten fields]

end

theorem arrangedAll_eq_map (a : Arrangement) (items : List Json) :
    arrangedAll a items = items.map (arranged a) := by
  induction items with
  | nil => rfl
  | cons item items ih => rw [arrangedAll, ih, List.map_cons]

theorem arrangedFields_eq_map (a : Arrangement) (fields : List (String × Json)) :
    arrangedFields a fields = fields.map fun field => (field.1, field.2.arranged a) := by
  induction fields with
  | nil => rfl
  | cons field fields ih => rw [arrangedFields, ih, List.map_cons]

theorem readings_eq_map (items : List Json) : readings items = items.map reading := by
  induction items with
  | nil => rfl
  | cons item items ih => rw [readings, ih, List.map_cons]

theorem fieldReadings_eq_map (fields : List (String × Json)) :
    fieldReadings fields = fields.map fun field => (field.1, field.2.reading) := by
  induction fields with
  | nil => rfl
  | cons field fields ih => rw [fieldReadings, ih, List.map_cons]

end Json

namespace Arrangement

variable (a : Arrangement)

/-- All that a value can be read as, with its fields arranged. -/
def reading (value : Json) : Reading :=
  (value.arranged a).reading

@[simp] theorem reading_string (value : String) :
    a.reading (.string value) = .ofScalar (.string value) := rfl

@[simp] theorem reading_bool (value : Bool) :
    a.reading (.bool value) = .ofScalar (.bool value) := rfl

@[simp] theorem reading_integer (value : Int) :
    a.reading (.integer value) = .ofScalar (.integer value) := rfl

theorem reading_array (items : List Json) :
    a.reading (.array items) = .ofItems ((Json.array items).arranged a) (items.map a.reading) := by
  rw [reading, Json.arranged, Json.reading, Json.readings_eq_map, Json.arrangedAll_eq_map,
    List.map_map]
  rfl

theorem exists_reading_object (fields : List (String × Json)) :
    ∃ given, given.Perm (fields.map fun field => (field.1, a.reading field.2)) ∧
      a.reading (.object fields) = .ofFields ((Json.object fields).arranged a) given := by
  refine ⟨_, ?_, rfl⟩
  have hperm := (a.perm (Json.arrangedFields a fields)).map fun field => (field.1, field.2.reading)
  rw [Json.fieldReadings_eq_map]
  refine hperm.trans ?_
  rw [Json.arrangedFields_eq_map, List.map_map]
  exact .refl _

end Arrangement

/-! ## Asking for fields -/

namespace Record

variable {α : Type}

/-- Other orders of a list can be told from it only if there are two things in it. -/
theorem eq_or_more_of_perm {l l' : List α} (h : l.Perm l') :
    l = l' ∨ (∃ a b rest, l = a :: b :: rest) ∧ ∃ a b rest, l' = a :: b :: rest := by
  cases l with
  | nil => exact .inl h.nil_eq
  | cons a l =>
      cases l with
      | nil => exact .inl h.singleton_eq
      | cons b rest =>
          have hlength := h.length_eq
          match l', hlength with
          | c :: d :: rest', _ => exact .inr ⟨⟨a, b, rest, rfl⟩, c, d, rest', rfl⟩

theorem fromFields?_perm {fields given : List (String × α)} (h : given.Perm fields)
    (names : List String) : fromFields? names given = fromFields? names fields := by
  unfold fromFields?
  congr 1
  funext name
  rcases eq_or_more_of_perm (h.filter fun field => field.1 = name) with heq | hmore
  · rw [heq]
  · obtain ⟨⟨_, _, _, hgiven⟩, _, _, _, hfields⟩ := hmore
    rw [hgiven, hfields]

/-- The fields of a record that are there. -/
def present (names : List String) (values : List (Option α)) : List (String × α) :=
  (names.zip values).filterMap fun (name, value) => value.map (name, ·)

theorem mem_of_mem_present {names : List String} {values : List (Option α)} {field : String × α}
    (h : field ∈ present names values) : field.1 ∈ names := by
  obtain ⟨⟨name, value⟩, hmem, hvalue⟩ := List.mem_filterMap.1 h
  obtain ⟨value, rfl, rfl⟩ := Option.map_eq_some_iff.1 hvalue
  exact (List.of_mem_zip hmem).1

theorem map_present {β : Type} (f : α → β) (names : List String) (values : List (Option α)) :
    (present names values).map (fun field => (field.1, f field.2)) =
      present names (values.map (Option.map f)) := by
  simp [present, List.zip_map_right, List.filterMap_map, List.map_filterMap, Function.comp_def]

/-- A field of another name makes no difference. -/
theorem fromFields?_cons_of_notMem {name : String} {names : List String} (h : name ∉ names)
    (value : α) (fields : List (String × α)) :
    fromFields? names ((name, value) :: fields) = fromFields? names fields := by
  induction names with
  | nil => rfl
  | cons other names ih =>
      rw [List.mem_cons, not_or] at h
      have hother : ((name, value) :: fields).filter (fun field => field.1 = other) =
          fields.filter fun field => field.1 = other :=
        List.filter_cons_of_neg (by simpa using h.1)
      simp only [fromFields?, List.mapM_cons, hother] at ih ⊢
      rw [ih h.2]

/-- Whatever is there of a record is found, and what is not is missing. -/
theorem fromFields?_present {names : List String} (h : names.Nodup) (values : List (Option α))
    (hlength : values.length = names.length) :
    fromFields? names (present names values) = some values := by
  induction names generalizing values with
  | nil =>
      rw [List.length_eq_zero_iff.1 hlength]
      rfl
  | cons name names ih =>
      obtain ⟨hname, hnames⟩ := List.nodup_cons.1 h
      cases values with
      | nil => cases hlength
      | cons value values =>
          have hrest := ih hnames values (Nat.succ.inj hlength)
          have habsent : (present names values).filter (fun field => field.1 = name) = [] := by
            refine List.filter_eq_nil_iff.2 fun field hmem => ?_
            have := mem_of_mem_present hmem
            simpa using fun heq : field.1 = name => hname (heq ▸ this)
          cases value with
          | none =>
              change fromFields? (name :: names) (present names values) = _
              simp only [fromFields?, List.mapM_cons, habsent] at hrest ⊢
              rw [hrest]
              rfl
          | some value =>
              have hfound : ((name, value) :: present names values).filter
                  (fun field => field.1 = name) = [(name, value)] := by
                rw [List.filter_cons_of_pos (by simp), habsent]
              have hskip := fromFields?_cons_of_notMem hname value (present names values)
              change fromFields? (name :: names) ((name, value) :: present names values) = _
              rw [hrest] at hskip
              simp only [fromFields?, List.mapM_cons, hfound] at hskip ⊢
              rw [hskip]
              rfl

end Record

namespace Reading

variable {fields given : List (String × Reading)}

@[simp] theorem text?_string (value : String) :
    text? (some (.ofScalar (.string value))) = some value := rfl

@[simp] theorem bool?_bool (value : Bool) :
    bool? (some (.ofScalar (.bool value))) = some value := rfl

theorem nat?_integer {bound value : Nat} (h : value < bound) :
    nat? bound (some (.ofScalar (.integer value))) = some value := by
  have hvalue : (0 : Int) ≤ value ∧ (value : Int) < bound := by omega
  exact if_pos hvalue

theorem nodeOfFields?_perm (h : given.Perm fields) :
    nodeOfFields? given = nodeOfFields? fields := by
  unfold nodeOfFields?
  rcases Record.eq_or_more_of_perm (h.filter fun field => field.1 = "type") with heq | hmore
  · simp only [heq, Record.fromFields?_perm (h.filter _)]
  · obtain ⟨⟨_, _, _, hgiven⟩, _, _, _, hfields⟩ := hmore
    rw [hgiven, hfields]

theorem mergedOfFields?_perm (h : given.Perm fields) :
    mergedOfFields? given = mergedOfFields? fields := by
  rcases Record.eq_or_more_of_perm h with rfl | ⟨⟨_, _, _, rfl⟩, _, _, _, rfl⟩
  · rfl
  · simp [mergedOfFields?]

/-- Entries that are read one by one come in the order of the fields. -/
theorem exists_mapM_of_perm {α β : Type} {f : α → Option β} {l l' : List α} {out : List β}
    (h : l.Perm l') (hout : l'.mapM f = some out) :
    ∃ out', l.mapM f = some out' ∧ out'.Perm out := by
  induction h generalizing out with
  | nil => exact ⟨out, hout, .refl _⟩
  | cons a _ ih =>
      simp only [List.mapM_cons, bind, Option.bind_eq_some_iff, pure, Option.some.injEq] at hout
      obtain ⟨b, hb, bs, hbs, rfl⟩ := hout
      obtain ⟨bs', hbs', hperm⟩ := ih hbs
      exact ⟨b :: bs', by simp [hb, hbs'], hperm.cons b⟩
  | swap a a' l =>
      simp only [List.mapM_cons, bind, Option.bind_eq_some_iff, pure, Option.some.injEq] at hout
      obtain ⟨b, hb, _, ⟨b', hb', bs, hbs, rfl⟩, rfl⟩ := hout
      exact ⟨b' :: b :: bs, by simp [hb, hb', hbs], .swap _ _ _⟩
  | trans _ _ ih ih' =>
      obtain ⟨middle, hmiddle, hperm⟩ := ih' hout
      obtain ⟨out', hout', hperm'⟩ := ih hmiddle
      exact ⟨out', hout', hperm'.trans hperm⟩

theorem paramsOfFields?_perm (h : given.Perm fields) {params : List (String × Param)}
    (hparams : (fields.mapM fun (key, r) => do return (key, ← r.param)) = some params)
    (hascending : Keyed.Ascending params) : paramsOfFields? given = some params := by
  obtain ⟨entries, hentries, hperm⟩ := exists_mapM_of_perm h hparams
  rw [paramsOfFields?, hentries]
  exact congrArg some (hascending.ofList_eq hperm)

theorem attributesOfFields?_perm (h : given.Perm fields) {attrs : Attributes}
    (hattrs : (fields.mapM fun (name, r) => do return (name, ← r.value.string?)) =
      some attrs.entries) : attributesOfFields? given = some attrs := by
  obtain ⟨entries, hentries, hperm⟩ := exists_mapM_of_perm h hattrs
  rw [attributesOfFields?, hentries]
  exact congrArg some (Attributes.ofList_eq hperm)

end Reading

end ArticleTree
