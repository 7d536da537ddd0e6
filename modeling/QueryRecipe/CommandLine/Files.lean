import QueryRecipe.Text.Search

/-!
# Files

How the program gets at files, whatever they are kept in, and a tree of files that is given by the
places and texts of its files.
-/

namespace QueryRecipe.CommandLine

/-- Why a file cannot be read. -/
inductive FileFault where
  | missing
  /-- A part of its path is a file. -/
  | notFolder
  | isFolder
  /-- Its path, or a name in it, is too long. -/
  | tooLong
  /-- Any other reason, in words. -/
  | other (reason : String)
  deriving DecidableEq, Repr

namespace FileFault

/-- The text of a fault. -/
def message : FileFault → String
  | .missing => "No such file or directory (os error 2)"
  | .notFolder => "Not a directory (os error 20)"
  | .isFolder => "Is a directory (os error 21)"
  | .tooLong => "File name too long (os error 36)"
  | .other reason => reason

/-- Whether there is something at the path. -/
def isPresent : FileFault → Bool
  | .missing | .notFolder | .tooLong => false
  | .isFolder | .other _ => true

end FileFault

/-- Access to files, and the path of the user's configuration. -/
structure Files (m : Type → Type) where
  read : String → m (Except FileFault String)
  userConfig : Option String

/-- The names of the folders from the root down to something in a tree. -/
abbrev Place := List String

namespace Place

/-- Where one part of a path leads. An empty part and a dot lead nowhere, two dots lead to the folder
above; above the root there is the root. -/
def step (p : Place) (part : String) : Place :=
  if part = "" ∨ part = "." then p
  else if part = ".." then p.dropLast
  else p ++ [part]

/-- The places to which the parts of a path lead one after the other. -/
def passed (p : Place) : List String → List Place
  | [] => []
  | part :: rest => p.step part :: passed (p.step part) rest

end Place

/-- A tree of files, seen from a folder in it. -/
structure FileTree where
  /-- The folder from which paths lead that do not start at the root. -/
  working : Place
  texts : List (Place × String) := []
  /-- The folders, apart from those on the way to a file. -/
  folders : List Place := []

namespace FileTree

/-- How many bytes a name may have. -/
def nameLimit : Nat := 255

/-- How many bytes a path may have. -/
def pathLimit : Nat := 4095

/-- What there is around a working folder: the folders that every system has, the list of users and a
file that is always empty. No path spells the name of the working folder, so paths lead to it only from
inside. -/
def system : FileTree where
  working := ["tmp", "/"]
  texts := [(["dev", "null"], ""), (["etc", "passwd"], "root:x:0:0:root:/root:/bin/sh\n")]
  folders := ["bin", "boot", "home", "lib", "media", "mnt", "opt", "proc", "root", "run", "sbin", "srv",
      "sys"].map ([·]) ++
    ["bin", "lib", "local", "share"].map (["usr", ·]) ++ ["lib", "log", "tmp"].map (["var", ·])

/-- The parts of a path. -/
def parts (path : String) : List String :=
  Text.split '/' path

/-- Where a path starts. -/
def start (t : FileTree) (path : String) : Place :=
  if path.toList.head? = some '/' then [] else t.working

/-- The text of the file at a place. -/
def text? (t : FileTree) (p : Place) : Option String :=
  t.texts.lookup p

/-- Whether there is a folder at a place. -/
def hasFolder (t : FileTree) (p : Place) : Bool :=
  (t.working :: t.folders ++ t.texts.map (·.1.dropLast)).any p.isPrefixOf

/-- Follows the parts of a path from a folder. -/
def follow (t : FileTree) (p : Place) : List String → Except FileFault String
  | [] => .error .isFolder
  | part :: rest =>
    let next := p.step part
    if nameLimit < part.utf8ByteSize then
      .error .tooLong
    else
      match t.text? next with
      | some text => if rest.isEmpty then .ok text else .error .notFolder
      | none => if t.hasFolder next then t.follow next rest else .error .missing

/-- The text of the file with this path. -/
def read (t : FileTree) (path : String) : Except FileFault String :=
  if path = "" then .error .missing
  else if pathLimit < path.utf8ByteSize then .error .tooLong
  else t.follow (t.start path) (parts path)

/-- The tree with a text written to a file, whose folders are made on the way. A text that was there
before is replaced. -/
def write (t : FileTree) (path text : String) : FileTree :=
  let places := (t.start path).passed (parts path)
  match places.getLast? with
  | none => t
  | some file => { t with
      texts := (file, text) :: t.texts.filter (·.1 != file)
      folders := places.dropLast ++ t.folders }

/-- The files of a tree, with the user's configuration at a path in it. -/
def files (t : FileTree) (userConfig : String) : Files Id where
  read path := t.read path
  userConfig := some userConfig

end FileTree

end QueryRecipe.CommandLine
