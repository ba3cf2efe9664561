import Ebms.Index

/-!
# Directories

A directory holds files and folders under names. What is in a folder is reached by a path, the names
of the folders on the way and the name in the last of them; a path leads nowhere if one of those
folders is missing or a file. Only what is under a name of the directory itself can be renamed.

Not everything that has a name can be read. Whoever reads follows links, so a link that leads
nowhere is not found, just as if nothing had its name. A folder, or a file that nobody may open, is
found and cannot be read.
-/

namespace Ebms

/-- Why there is nothing to be read under a name. -/
inductive ReadFailure where
  /-- Nothing has the name, or what has it is a link that leads nowhere. -/
  | notFound
  /-- What has the name cannot be read. -/
  | refused
  deriving DecidableEq, Repr

/-- Something in a directory. -/
inductive DirectoryEntry where
  | file (content : ByteArray)
  | folder (entries : List (String × DirectoryEntry))
  /-- A link that leads nowhere, into a folder that is not there. -/
  | deadLink
  /-- Something that can be neither read nor written. -/
  | locked

namespace DirectoryEntry

/-- What there is to be read in an entry. -/
def read : DirectoryEntry → Except ReadFailure ByteArray
  | .file content => .ok content
  | .deadLink => .error .notFound
  | .folder _ | .locked => .error .refused

/-- What is at a path below an entry. -/
def at? : List String → DirectoryEntry → Option DirectoryEntry
  | [], entry => some entry
  | name :: below, .folder entries => (entries.lookup name).bind (at? below)
  | _ :: _, _ => none

/-- The entry in which `change` is made to what is at a path below it; none if the path leads
nowhere or the change is refused. -/
def change? (change : Option DirectoryEntry → Option DirectoryEntry) :
    List String → Option DirectoryEntry → Option DirectoryEntry
  | [], entry => change entry
  | name :: below, some (.folder entries) =>
      (change? change below (entries.lookup name)).map fun changed =>
        .folder ((name, changed) :: entries.filter fun entry => entry.1 != name)
  | _ :: _, _ => none

end DirectoryEntry

/-- A directory, as far as a store has to do with it. One that is removed while it is open stays
open, is empty, and can no longer be written. -/
structure Directory where
  entries : Index DirectoryEntry := .empty
  removed : Bool := false

namespace Directory

/-- What there is to be read under a name. -/
def read (directory : Directory) (name : String) : Except ReadFailure ByteArray :=
  match directory.entries.find? name with
  | none => .error .notFound
  | some entry => entry.read

/-- What is at a path. -/
def entry? (directory : Directory) : List String → Option DirectoryEntry
  | [] => some (.folder directory.entries.entries)
  | name :: below => (directory.entries.find? name).bind (DirectoryEntry.at? below)

/-- The directory in which `change` is made to what is at a path; none if that is not possible. -/
def change? (directory : Directory) (change : Option DirectoryEntry → Option DirectoryEntry) :
    List String → Option Directory
  | [] => none
  | name :: below =>
      if directory.removed then none
      else
        (DirectoryEntry.change? change below (directory.entries.find? name)).map fun entry =>
          { directory with entries := directory.entries.put name entry }

/-- The directory with a file at a path; none if that is not possible. -/
def write? (directory : Directory) (path : List String) (content : ByteArray) : Option Directory :=
  directory.change? (fun
    | none | some (.file _) => some (.file content)
    | some (.folder _) | some .deadLink | some .locked => none) path

/-- The directory with a folder at a path; none if the path is taken or leads nowhere. -/
def makeFolder? (directory : Directory) (path : List String) : Option Directory :=
  directory.change? (fun
    | none => some (.folder [])
    | some _ => none) path

/-- The directory with a file under another name, in the place of whatever had it; none if there is
no such file or the place is taken by a folder. -/
def rename? (directory : Directory) (old new : String) : Option Directory :=
  match directory.entries.find? old, directory.entries.find? new with
  | some (.file _), some (.folder _) => none
  | some (.file content), _ =>
      some { directory with entries := (directory.entries.erase old).put new (.file content) }
  | _, _ => none

/-- The directory once it is removed, with all that is in it. -/
def remove (_ : Directory) : Directory :=
  { removed := true }

/-- The names in the directory, in ascending order. -/
def names (directory : Directory) : List String :=
  directory.entries.keys

/-- Whether an entry can have a name that is not empty: it has no null character in it and is no
longer than a file system allows. -/
def isEntryName (name : String) : Bool :=
  name.utf8ByteSize ≤ 255 && name.toList.all fun c => c.toNat != 0

/-- The path that some parts lead to from a folder, whose own path is given last name first. An
empty part and a point stay in the folder, and two points leave it. -/
def resolveFrom? (directory : Directory) (folder : List String) :
    List String → Option (List String)
  | [] => some folder.reverse
  | part :: parts =>
      if part ∈ ["", ".", ".."] then
        match directory.entry? folder.reverse, part, folder with
        | some (.folder _), "..", [] => none
        | some (.folder _), "..", _ :: outer => directory.resolveFrom? outer parts
        | some (.folder _), _, _ => directory.resolveFrom? folder parts
        | _, _, _ => none
      else if isEntryName part then directory.resolveFrom? (part :: folder) parts
      else none

/-- The path that a text stands for, its parts between slashes; none if it does not start at the
directory or leaves it. -/
def resolve? (directory : Directory) (text : String) : Option (List String) :=
  match text.splitOn "/" with
  | "" :: _ => none
  | parts => directory.resolveFrom? [] parts

end Directory

end Ebms
