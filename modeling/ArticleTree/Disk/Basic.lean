import ArticleTree.Disk.Path
import ArticleTree.Keyed

/-! # Disks

A disk holds files and directories. This one is a value, so a command can run on it and
what the command did can be looked at.
-/

namespace ArticleTree

/-- What stands at a path of a disk. -/
inductive DiskEntry where
  | directory
  | file (content : ByteArray)

instance : DecidableEq DiskEntry
  | .directory, .directory => isTrue rfl
  | .directory, .file _ => isFalse nofun
  | .file _, .directory => isFalse nofun
  | .file a, .file b =>
      decidable_of_iff (a.data = b.data) (by rw [DiskEntry.file.injEq, ByteArray.ext_iff])

structure Disk where
  /-- What stands below the root, by the names on the way. -/
  entries : List (List String × DiskEntry)
  /-- The directory that paths without a slash at their beginning are seen from. -/
  current : List String
  deriving DecidableEq

namespace Disk

def missing : String := "No such file or directory (os error 2)"

/-- A directory stands where a file is asked for. -/
def isDirectory : String := "Is a directory (os error 21)"

/-- A file stands where a directory is asked for. -/
def notDirectory : String := "Not a directory (os error 20)"

/-- Something stands where a directory is to be made. -/
def alreadyThere : String := "File exists (os error 17)"

def nameTooLong : String := "File name too long (os error 36)"

def entry? (disk : Disk) (place : List String) : Option DiskEntry :=
  if place.isEmpty then some .directory else disk.entries.lookup place

def put (disk : Disk) (place : List String) (entry : DiskEntry) : Disk :=
  { disk with entries := (place, entry) :: disk.entries.filter fun other => other.1 != place }

def start (disk : Disk) (path : String) : List String :=
  if Text.beginsWith "/" path then [] else disk.current

/-- Go one step on from a place, which must be a directory. -/
def enter (disk : Disk) (place : List String) (name : String) : Except String (List String) :=
  match disk.entry? place with
  | none => .error missing
  | some (.file _) => .error notDirectory
  | some .directory =>
      if name == ".." then .ok place.dropLast
      else if 255 < name.utf8ByteSize then .error nameTooLong
      else .ok (place ++ [name])

/-- The place that a path leads to. Every place on the way must be a directory. -/
def place (disk : Disk) (path : String) : Except String (List String) :=
  if path.isEmpty then .error missing
  else (Path.steps path).foldlM disk.enter (disk.start path)

def isThere (disk : Disk) (path : String) : Bool :=
  match disk.place path with
  | .ok place => (disk.entry? place).isSome
  | .error _ => false

def read (disk : Disk) (path : String) : Except String ByteArray := do
  match disk.entry? (← disk.place path) with
  | none => throw missing
  | some .directory => throw isDirectory
  | some (.file content) => if Path.endsInSlash path then throw notDirectory else return content

def write (disk : Disk) (path : String) (content : ByteArray) : Except String Disk := do
  let place ← disk.place path
  match disk.entry? place.dropLast, disk.entry? place with
  | _, some .directory => throw isDirectory
  | some .directory, _ =>
      if Path.endsInSlash path then throw isDirectory else return disk.put place (.file content)
  | _, _ => throw missing

/-- Make the directories that are missing on the way. -/
def makeOnWay (place : List String) : (names : List String) → Disk → Except String Disk
  | [], disk => .ok disk
  | name :: names, disk => do
      let next ← disk.enter place name
      match disk.entry? next with
      | none => makeOnWay next names (disk.put next .directory)
      | some .directory => makeOnWay next names disk
      | some (.file _) => throw (if names.isEmpty then alreadyThere else notDirectory)

/-- Make a directory, and those on the way to it. -/
def makeDirectories (disk : Disk) (path : String) : Except String Disk :=
  makeOnWay (disk.start path) (Path.steps path) disk

/-- The files below a place, by the paths that lead to them from there. -/
def filesBelow (disk : Disk) (place : List String) : List (String × ByteArray) :=
  Keyed.ofList <| disk.entries.filterMap fun (found, entry) =>
    match entry with
    | .file content =>
        if found.take place.length == place then
          some ("/".intercalate (found.drop place.length), content)
        else none
    | .directory => none

end Disk

end ArticleTree
