import ArticleTree.Disk.Basic
import ArticleTree.Proofs.Text.Affix
import Mathlib.Tactic.SplitIfs

/-! # Files and the paths that lead to them

The names of a path say where it leads to, if it leads anywhere; the disk only has a say in
whether it does. What leads somewhere goes on doing so as long as no directory is lost. Writing
a file loses none, so a path that can be written to can be written to again, whatever was written
in the meantime.
-/

namespace ArticleTree

namespace Path

/-- One step on from a place. -/
def beyond (place : List String) (name : String) : List String :=
  if name == ".." then place.dropLast else place ++ [name]

/-- Where a path leads to from a directory, if it leads anywhere. -/
def landing (current : List String) (path : String) : List String :=
  (steps path).foldl beyond (if Text.beginsWith "/" path then [] else current)

end Path

namespace Disk

variable {disk after : Disk} {path name : String} {place next other : List String}
  {content : ByteArray}

/-! ## Putting something somewhere -/

theorem lookup_filter_of_ne (h : other ≠ place) (entries : List (List String × DiskEntry)) :
    (entries.filter fun entry => entry.1 != place).lookup other = entries.lookup other := by
  induction entries with
  | nil => rfl
  | cons entry entries ih =>
      obtain ⟨found, entry⟩ := entry
      by_cases hfound : found = place
      · rw [List.filter_cons_of_neg (by simpa using hfound), ih, List.lookup_cons,
          beq_eq_false_iff_ne.2 (hfound ▸ h)]
      · rw [List.filter_cons_of_pos (by simpa using hfound), List.lookup_cons, List.lookup_cons, ih]

@[simp] theorem current_put (disk : Disk) (place : List String) (entry : DiskEntry) :
    (disk.put place entry).current = disk.current := rfl

theorem entry?_put_self (disk : Disk) (h : place ≠ []) (entry : DiskEntry) :
    Disk.entry? (disk.put place entry) place = some entry := by
  simp [Disk.entry?, put, h]

theorem entry?_put_of_ne (disk : Disk) (h : other ≠ place) (entry : DiskEntry) :
    Disk.entry? (disk.put place entry) other = disk.entry? other := by
  rw [Disk.entry?, Disk.entry?, put, List.lookup_cons, beq_eq_false_iff_ne.2 h,
    lookup_filter_of_ne h]

/-- Only the root is always a directory. -/
theorem ne_nil_of_ne_directory (h : disk.entry? place ≠ some .directory) : place ≠ [] := by
  rintro rfl
  exact h rfl

/-! ## Where a path leads to -/

theorem enter_eq_ok : disk.enter place name = .ok next ↔
    disk.entry? place = some .directory ∧ (name = ".." ∨ name.utf8ByteSize ≤ 255) ∧
      next = Path.beyond place name := by
  rw [enter, Path.beyond]
  cases hentry : disk.entry? place with
  | none => simp
  | some entry =>
      cases entry with
      | file content => simp
      | directory =>
          by_cases hname : name = ".."
          · simp [hname, eq_comm]
          · simp only [beq_iff_eq, hname, if_false, true_and, false_or]
            split_ifs with hlong
            · simp [Nat.not_le.2 hlong]
            · simp [Nat.not_lt.1 hlong, eq_comm]

theorem foldl_of_foldlM {names : List String} (h : names.foldlM disk.enter place = .ok next) :
    next = names.foldl Path.beyond place := by
  induction names generalizing place with
  | nil =>
      cases h
      rfl
  | cons name names ih =>
      rw [List.foldlM_cons] at h
      cases hstep : disk.enter place name with
      | error reason =>
          rw [hstep] at h
          cases h
      | ok middle =>
          rw [hstep] at h
          obtain ⟨_, _, rfl⟩ := enter_eq_ok.1 hstep
          exact ih h

theorem landing_of_place (h : disk.place path = .ok place) :
    place = Path.landing disk.current path := by
  rw [Disk.place] at h
  split at h
  · cases h
  · exact foldl_of_foldlM h

/-- The directories of a disk are directories of a later one. -/
def Keeps (disk after : Disk) : Prop :=
  ∀ place, disk.entry? place = some .directory → after.entry? place = some .directory

theorem Keeps.foldlM (h : disk.Keeps after) {names : List String}
    (hwalk : names.foldlM disk.enter place = .ok next) :
    names.foldlM after.enter place = .ok next := by
  induction names generalizing place with
  | nil => exact hwalk
  | cons name names ih =>
      rw [List.foldlM_cons] at hwalk ⊢
      cases hstep : disk.enter place name with
      | error reason =>
          rw [hstep] at hwalk
          cases hwalk
      | ok middle =>
          rw [hstep] at hwalk
          obtain ⟨hentry, hname⟩ := enter_eq_ok.1 hstep
          rw [enter_eq_ok.2 ⟨h _ hentry, hname⟩]
          exact ih hwalk

theorem Keeps.leads (h : disk.Keeps after) (hcurrent : after.current = disk.current)
    (hplace : disk.place path = .ok place) : after.place path = .ok place := by
  rw [Disk.place] at hplace ⊢
  split at hplace
  · cases hplace
  · rename_i hpath
    rw [if_neg hpath, start, hcurrent]
    exact h.foldlM hplace

theorem keeps_put (h : disk.entry? place ≠ some .directory) (content : ByteArray) :
    disk.Keeps (disk.put place (.file content)) := by
  intro other hother
  rw [entry?_put_of_ne disk, hother]
  rintro rfl
  exact h hother

/-! ## Reading and writing files -/

/-- What is read is the file that the path leads to. -/
theorem file_of_read (h : disk.read path = .ok content) :
    disk.entry? (Path.landing disk.current path) = some (.file content) := by
  rw [Disk.read] at h
  cases hplace : disk.place path with
  | error reason =>
      rw [hplace] at h
      cases h
  | ok place =>
      rw [← landing_of_place hplace]
      simp only [hplace, bind, Except.bind] at h
      split at h
      · cases h
      · cases h
      · rename_i hentry
        split at h
        · cases h
        · cases h
          exact hentry

/-- A file can be written at a path, which leads to a place. -/
structure Takes (disk : Disk) (path : String) (place : List String) : Prop where
  leads : disk.place path = .ok place
  parent : disk.entry? place.dropLast = some .directory
  free : disk.entry? place ≠ some .directory
  noSlash : Path.endsInSlash path = false

theorem Takes.write (h : disk.Takes path place) (content : ByteArray) :
    disk.write path content = .ok (disk.put place (.file content)) := by
  simp only [Disk.write, h.leads, bind, Except.bind, h.parent, h.noSlash]
  cases hentry : disk.entry? place with
  | none => rfl
  | some entry =>
      cases entry with
      | file _ => rfl
      | directory => exact absurd hentry h.free

theorem exists_takes (h : disk.write path content = .ok after) :
    ∃ place, disk.Takes path place ∧ after = disk.put place (.file content) := by
  cases hplace : disk.place path with
  | error reason => simp [Disk.write, hplace, bind, Except.bind] at h
  | ok place =>
      simp only [Disk.write, hplace, bind, Except.bind] at h
      split at h
      · cases h
      · rename_i hparent hfree
        split at h
        · cases h
        · rename_i hslash
          cases h
          exact ⟨place, ⟨hplace, hparent, hfree, by simpa using hslash⟩, rfl⟩
      · cases h

/-- A path can still be written to after a file was written at one or the other path. -/
theorem Takes.put (h : disk.Takes path place) (hother : disk.entry? other ≠ some .directory)
    (content : ByteArray) : (disk.put other (.file content)).Takes path place where
  leads := (keeps_put hother content).leads rfl h.leads
  parent := keeps_put hother content _ h.parent
  free := by
    by_cases hsame : place = other
    · subst hsame
      rw [entry?_put_self disk (ne_nil_of_ne_directory hother)]
      simp
    · rw [entry?_put_of_ne disk hsame]
      exact h.free
  noSlash := h.noSlash

/-! ## Making directories -/

/-- A directory is made where nothing was, or nothing is made. -/
theorem exists_of_makeOnWay {names : List String}
    (h : makeOnWay place (name :: names) disk = .ok after) :
    ∃ next, disk.enter place name = .ok next ∧
      (disk.entry? next = none ∧ makeOnWay next names (disk.put next .directory) = .ok after ∨
        disk.entry? next = some .directory ∧ makeOnWay next names disk = .ok after) := by
  rw [makeOnWay] at h
  cases hstep : disk.enter place name with
  | error reason =>
      rw [hstep] at h
      cases h
  | ok next =>
      simp only [hstep, bind, Except.bind] at h
      refine ⟨next, rfl, ?_⟩
      split at h
      · rename_i hentry
        exact .inl ⟨hentry, h⟩
      · rename_i hentry
        exact .inr ⟨hentry, h⟩
      · cases h

theorem current_of_makeOnWay {names : List String}
    (h : makeOnWay place names disk = .ok after) : after.current = disk.current := by
  induction names generalizing place disk with
  | nil =>
      cases h
      rfl
  | cons name names ih =>
      obtain ⟨next, _, ⟨_, h⟩ | ⟨_, h⟩⟩ := exists_of_makeOnWay h
      · rw [ih h, current_put]
      · exact ih h

theorem keeps_makeOnWay {names : List String} (h : makeOnWay place names disk = .ok after) :
    disk.Keeps after := by
  induction names generalizing place disk with
  | nil =>
      cases h
      exact fun _ hother => hother
  | cons name names ih =>
      obtain ⟨next, _, ⟨hentry, h⟩ | ⟨_, h⟩⟩ := exists_of_makeOnWay h
      · intro other hother
        apply ih h
        rw [entry?_put_of_ne disk, hother]
        rintro rfl
        rw [hentry] at hother
        cases hother
      · exact ih h

/-- Making directories neither makes a file nor takes one away. -/
theorem file_makeOnWay_iff {names : List String} (h : makeOnWay place names disk = .ok after) :
    after.entry? other = some (.file content) ↔ disk.entry? other = some (.file content) := by
  induction names generalizing place disk with
  | nil =>
      cases h
      exact .rfl
  | cons name names ih =>
      obtain ⟨next, _, ⟨hentry, h⟩ | ⟨_, h⟩⟩ := exists_of_makeOnWay h
      · rw [ih h]
        by_cases hsame : other = next
        · subst hsame
          have hfree : disk.entry? other ≠ some .directory := by simp [hentry]
          rw [entry?_put_self disk (ne_nil_of_ne_directory hfree), hentry]
          simp
        · rw [entry?_put_of_ne disk hsame]
      · exact ih h

/-- A path that a file was written at can be written to when directories were made. -/
theorem Takes.makeOnWay {start names : List String} (h : disk.Takes path place)
    (hfile : disk.entry? place = some (.file content))
    (hmake : Disk.makeOnWay start names disk = .ok after) : after.Takes path place where
  leads := (keeps_makeOnWay hmake).leads (current_of_makeOnWay hmake) h.leads
  parent := keeps_makeOnWay hmake _ h.parent
  free := by
    rw [(file_makeOnWay_iff hmake).2 hfile]
    simp
  noSlash := h.noSlash

end Disk

end ArticleTree
