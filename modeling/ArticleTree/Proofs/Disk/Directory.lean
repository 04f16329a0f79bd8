import ArticleTree.Proofs.Disk.Files
import Mathlib.Data.List.Basic

/-! # The files of a directory

The path of a directory and the name of a file are joined to a path. It leads to where the
directory is, and one step on; so every file of a directory has a place of its own there, and
can be written as soon as the directory is found.
-/

namespace ArticleTree

namespace Path

/-- A path takes one step for the name. -/
structure IsName (name : String) : Prop where
  noSlash : '/' ∉ name.toList
  notEmpty : name ≠ ""
  notHere : name ≠ "."
  notUp : name ≠ ".."

/-- The names on the way, of a path that is given by its characters. -/
def stepsOf (cs : List Char) : List String :=
  ((cs.splitOn '/').map String.ofList).filter fun name => name != "" && name != "."

theorem steps_eq (path : String) : steps path = stepsOf path.toList := rfl

theorem stepsOf_append (cs ds : List Char) :
    stepsOf (cs ++ '/' :: ds) = stepsOf cs ++ stepsOf ds := by
  rw [stepsOf, List.splitOn_append_cons_self, List.map_append, List.filter_append]
  rfl

variable {name : String}

theorem IsName.stepsOf_eq (h : IsName name) : stepsOf name.toList = [name] := by
  rw [stepsOf, List.splitOn_eq_singleton h.noSlash]
  simp [h.notEmpty, h.notHere]

theorem IsName.toList_ne_nil (h : IsName name) : name.toList ≠ [] := by
  simpa using h.notEmpty

theorem IsName.beginsWith_eq (h : IsName name) : Text.beginsWith "/" name = false := by
  rw [← Bool.not_eq_true, Text.beginsWith_iff]
  intro hslash
  exact h.noSlash (hslash.subset (by simp))

/-- The path of a directory, with the slash that a name can stand after. -/
def opened (directory : String) : List Char :=
  if directory.isEmpty || endsInSlash directory then directory.toList
  else directory.toList ++ ['/']

theorem toList_join (directory : String) (h : IsName name) :
    (join directory name).toList = opened directory ++ name.toList := by
  rw [join, h.beginsWith_eq, opened, Bool.false_or]
  cases hempty : directory.isEmpty with
  | true =>
      rw [String.isEmpty_iff.1 hempty]
      rfl
  | false =>
      cases endsInSlash directory with
      | true => simp
      | false => simp

/-- A path that is not empty is opened by one slash at its end. -/
theorem exists_opened (directory : String) :
    directory = "" ∨ ∃ before, opened directory = before ++ ['/'] ∧
      stepsOf before = steps directory := by
  cases hempty : directory.isEmpty with
  | true => exact .inl (String.isEmpty_iff.1 hempty)
  | false =>
      right
      rw [opened, hempty, Bool.false_or]
      split
      · rename_i hslash
        obtain ⟨before, hbefore⟩ := List.getLast?_eq_some_iff.1 (beq_iff_eq.1 hslash)
        refine ⟨before, hbefore, ?_⟩
        rw [steps_eq, hbefore, stepsOf_append]
        exact (List.append_nil _).symm
      · exact ⟨directory.toList, rfl, rfl⟩

theorem steps_join (directory : String) (h : IsName name) :
    steps (join directory name) = steps directory ++ [name] := by
  rw [steps_eq, toList_join directory h]
  rcases exists_opened directory with rfl | ⟨before, hopened, hsteps⟩
  · exact h.stepsOf_eq
  · rw [hopened, List.append_assoc, List.singleton_append, stepsOf_append, h.stepsOf_eq, hsteps]

theorem beginsWith_join (directory : String) (h : IsName name) :
    Text.beginsWith "/" (join directory name) = Text.beginsWith "/" directory := by
  cases hcs : directory.toList with
  | nil =>
      obtain rfl : directory = "" := by simpa using hcs
      have hjoin : join "" name = name := by simp [join]
      rw [hjoin, h.beginsWith_eq]
      rfl
  | cons c cs =>
      have hopened : ∃ rest, opened directory = c :: rest := by
        rw [opened, hcs]
        split
        · exact ⟨cs, rfl⟩
        · exact ⟨cs ++ ['/'], rfl⟩
      obtain ⟨rest, hrest⟩ := hopened
      rw [Bool.eq_iff_iff, Text.beginsWith_iff, Text.beginsWith_iff, toList_join directory h, hrest,
        hcs]
      simp [List.cons_prefix_cons]

theorem isEmpty_join (directory : String) (h : IsName name) :
    (join directory name).isEmpty = false := by
  rw [← Bool.not_eq_true, String.isEmpty_iff, ← String.toList_eq_nil_iff, toList_join directory h]
  simp [h.notEmpty]

theorem endsInSlash_join (directory : String) (h : IsName name) :
    endsInSlash (join directory name) = false := by
  rw [endsInSlash, toList_join directory h, beq_eq_false_iff_ne]
  intro hlast
  rw [List.getLast?_append_of_ne_nil _ h.toList_ne_nil] at hlast
  exact h.noSlash (List.mem_of_getLast? hlast)

end Path

namespace Disk

variable {disk : Disk} {directory name : String} {place : List String}

/-- A path leads to a directory. An empty path leads to where paths begin. -/
structure LeadsTo (disk : Disk) (directory : String) (place : List String) : Prop where
  way : (Path.steps directory).foldlM disk.enter (disk.start directory) = .ok place
  isDirectory : disk.entry? place = some .directory

theorem LeadsTo.put (h : disk.LeadsTo directory place) {other : List String}
    (hother : disk.entry? other ≠ some .directory) (content : ByteArray) :
    (disk.put other (.file content)).LeadsTo directory place where
  way := (keeps_put hother content).foldlM h.way
  isDirectory := keeps_put hother content _ h.isDirectory

/-- Writing one file of a directory leaves the others as they are. -/
theorem entry?_put_name (disk : Disk) (place : List String) (name other : String)
    (entry : DiskEntry) :
    Disk.entry? (disk.put (place ++ [name]) entry) (place ++ [other]) =
      if name = other then some entry else disk.entry? (place ++ [other]) := by
  split
  · rename_i hsame
    rw [hsame, entry?_put_self disk (by simp)]
  · rename_i hother
    rw [entry?_put_of_ne disk]
    intro hplace
    exact hother (by simpa using hplace.symm)

/-- From a directory it is one step to what a name stands for. -/
theorem LeadsTo.place_join (h : disk.LeadsTo directory place) (hname : Path.IsName name) :
    disk.place (Path.join directory name) = disk.enter place name := by
  have hstart : disk.start (Path.join directory name) = disk.start directory := by
    rw [start, start, Path.beginsWith_join directory hname]
  rw [Disk.place, Path.isEmpty_join directory hname, Path.steps_join directory hname, hstart,
    List.foldlM_append, h.way]
  simp only [Bool.false_eq_true, if_false, List.foldlM_cons, List.foldlM_nil, bind, Except.bind]
  cases disk.enter place name <;> rfl

theorem LeadsTo.takes (h : disk.LeadsTo directory place) (hname : Path.IsName name)
    (hlength : name.utf8ByteSize ≤ 255) (hfree : disk.entry? (place ++ [name]) ≠ some .directory) :
    disk.Takes (Path.join directory name) (place ++ [name]) where
  leads := by
    rw [h.place_join hname, enter_eq_ok]
    refine ⟨h.isDirectory, .inr hlength, ?_⟩
    rw [Path.beyond, beq_eq_false_iff_ne.2 hname.notUp]
    rfl
  parent := by
    rw [List.dropLast_concat]
    exact h.isDirectory
  free := hfree
  noSlash := Path.endsInSlash_join directory hname

theorem LeadsTo.write_eq_error (h : disk.LeadsTo directory place) (hname : Path.IsName name)
    (hlength : 255 < name.utf8ByteSize) (content : ByteArray) :
    disk.write (Path.join directory name) content = .error nameTooLong := by
  have henter : disk.enter place name = .error nameTooLong := by
    rw [enter, h.isDirectory]
    simp [hname.notUp, hlength]
  rw [Disk.write, h.place_join hname, henter]
  rfl

theorem foldlM_of_makeOnWay {names : List String} {disk made : Disk} {place : List String}
    (hplace : disk.entry? place = some .directory)
    (h : makeOnWay place names disk = .ok made) :
    ∃ next, names.foldlM made.enter place = .ok next ∧ made.entry? next = some .directory := by
  induction names generalizing place disk with
  | nil =>
      cases h
      exact ⟨place, rfl, hplace⟩
  | cons name names ih =>
      -- The way is gone on the disk as it is in the end, on which all directories are kept.
      have hkept : made.entry? place = some .directory := keeps_makeOnWay h place hplace
      obtain ⟨next, henter, hrest⟩ := exists_of_makeOnWay h
      have hstep : made.enter place name = .ok next :=
        enter_eq_ok.2 ⟨hkept, (enter_eq_ok.1 henter).2⟩
      rw [List.foldlM_cons, hstep]
      rcases hrest with ⟨hfree, hmake⟩ | ⟨hthere, hmake⟩
      · have hnew : disk.entry? next ≠ some .directory := by simp [hfree]
        exact ih (entry?_put_self disk (ne_nil_of_ne_directory hnew) .directory) hmake
      · exact ih hthere hmake

/-- A directory that was made is there. -/
theorem leadsTo_of_makeDirectories {made : Disk}
    (hstart : disk.entry? (disk.start directory) = some .directory)
    (h : disk.makeDirectories directory = .ok made) :
    made.LeadsTo directory (Path.landing made.current directory) := by
  obtain ⟨place, hway, hdirectory⟩ := foldlM_of_makeOnWay hstart h
  have hsame : made.start directory = disk.start directory := by
    rw [start, start, current_of_makeOnWay h]
  rw [← hsame] at hway
  have hplace : place = Path.landing made.current directory := foldl_of_foldlM hway
  exact ⟨hplace ▸ hway, hplace ▸ hdirectory⟩

/-- A directory is there after the directories that were missing were made, and nothing is in it. -/
structure MakesEmpty (disk : Disk) (directory : String) (place : List String) (made : Disk) :
    Prop where
  start : disk.entry? (disk.start directory) = some .directory
  makes : disk.makeDirectories directory = .ok made
  landing : Path.landing disk.current directory = place
  empty : ∀ name, made.entry? (place ++ [name]) = none

theorem MakesEmpty.leadsTo {made : Disk} (h : disk.MakesEmpty directory place made) :
    made.LeadsTo directory place := by
  have hleads := leadsTo_of_makeDirectories h.start h.makes
  rwa [current_of_makeOnWay h.makes, h.landing] at hleads

end Disk

end ArticleTree
