import ContentModel.Text.Basic

/-!
# Files

What the commands need of a file system, and a file system that is a value.

* `Files` is the access to files in a monad: looking at a path, and writing a file;
* `FilePath.text` writes a path without empty components and single dots;
* `FileTree` holds files by their paths, `FileTree.files` is the access to it.
-/

namespace ContentModel.CommandLine

/-- What stands at a path. -/
inductive Stored
  | missing
  | directory
  | file (content : ByteArray)

/-- Why a file is not written. -/
inductive WriteError
  /-- The directory does not exist. -/
  | noDirectory
  /-- What should be a directory on the way is a file. -/
  | notADirectory
  /-- The path names a directory. -/
  | isADirectory
  /-- The path, or a name in it, is too long. -/
  | tooLong
  /-- The file system refuses for a reason of its own. -/
  | refused
  deriving DecidableEq, Repr

/-- The access to files in a monad. -/
structure Files (m : Type → Type) where
  look : (path : String) → m Stored
  write : (path : String) → (content : ByteArray) → m (Except WriteError Unit)

/-! ## Paths -/

namespace FilePath

/-- The parts of a path between its slashes. -/
def parts (path : String) : List String :=
  (Text.splitChars '/' path.toList).map String.ofList

/-- The parts of a path that name something. -/
def names (path : String) : List String :=
  (parts path).filter fun part => part != "" && part != "."

/-- The slashes that a path begins with: two of them are kept, more count as one. -/
def root (path : String) : String :=
  match (path.toList.takeWhile (· == '/')).length with
  | 0 => ""
  | 2 => "//"
  | _ => "/"

/-- A path without empty parts and single dots. -/
def text (path : String) : String :=
  match root path, names path with
  | "", [] => "."
  | root, names => root ++ Text.joinWith "/" names

/-- The greatest number of bytes in a name. -/
def maxNameBytes : Nat := 255

/-- The greatest number of bytes in a path. -/
def maxBytes : Nat := 4095

/-- The last name in a path. -/
def lastName (path : String) : String := (names path).getLast?.getD ""

end FilePath

/-! ## A file system that is a value -/

/-- Files by their paths from the root, and a working directory. The directories are the working
directory, those that hold a file, and all above them. -/
structure FileTree where
  home : List String
  entries : List (List String × ByteArray)

namespace FileTree

/-- An empty working directory. -/
def empty (home : List String) : FileTree := ⟨home, []⟩

/-- Whether a place is a directory. -/
def isDirectory (tree : FileTree) (place : List String) : Bool :=
  place.isPrefixOf tree.home
    || tree.entries.any fun (path, _) => place.isPrefixOf path && place != path

/-- The content of the file at a place. -/
def content? (tree : FileTree) (place : List String) : Option ByteArray :=
  (tree.entries.find? fun (path, _) => path == place).map (·.2)

/-- The place that the parts of a path lead to. Every place on the way is a directory. -/
def walk (tree : FileTree) (place : List String) : List String → Except WriteError (List String)
  | [] => .ok place
  | part :: rest =>
    if tree.isDirectory place then
      if part = "" || part = "." then walk tree place rest
      else if part = ".." then walk tree place.dropLast rest
      else if FilePath.maxNameBytes < part.utf8ByteSize then .error .tooLong
      else walk tree (place ++ [part]) rest
    else if (tree.content? place).isSome then .error .notADirectory
    else .error .noDirectory

/-- The place where a path begins. -/
def start (tree : FileTree) (path : String) : List String :=
  if path.toList.head? = some '/' then [] else tree.home

/-- What stands at a path. -/
def look (tree : FileTree) (path : String) : Stored :=
  if path.isEmpty then .missing
  else
    match tree.walk (tree.start path) (FilePath.parts path) with
    | .error _ => .missing
    | .ok place =>
      match tree.content? place with
      | some content => .file content
      | none => if tree.isDirectory place then .directory else .missing

/-- The tree after a file is put at a place. -/
def put (tree : FileTree) (place : List String) (content : ByteArray) : FileTree :=
  { tree with entries := (place, content) :: tree.entries.filter fun (path, _) => path != place }

/-- The place that a path leads to. -/
def place (tree : FileTree) (path : String) : Except WriteError (List String) :=
  if FilePath.maxBytes < (FilePath.text path).utf8ByteSize then .error .tooLong
  else tree.walk (tree.start path) (FilePath.names path)

/-- The tree after a file is written at a path. -/
def write (tree : FileTree) (path : String) (content : ByteArray) : Except WriteError FileTree :=
  match tree.place path with
  | .error error => .error error
  | .ok place =>
    if tree.isDirectory place then .error .isADirectory
    else if tree.isDirectory place.dropLast then .ok (tree.put place content)
    else if (tree.content? place.dropLast).isSome then .error .notADirectory
    else .error .noDirectory

theorem content?_put (tree : FileTree) (place : List String) (content : ByteArray) :
    (tree.put place content).content? place = some content := by
  simp [put, content?]

/-- The access to a tree as the state of a computation. -/
def files : Files (StateM FileTree) where
  look path := do return (← get).look path
  write path content := do
    match (← get).write path content with
    | .ok tree => set tree; return .ok ()
    | .error error => return .error error

end FileTree

end ContentModel.CommandLine
