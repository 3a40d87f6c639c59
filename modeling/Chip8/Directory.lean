import Chip8.Error

set_option autoImplicit false

/-!
# Directories

The files and folders that a program looks at, from its working directory. A path is followed name
by name: an empty name and a single dot stay in a folder, two dots go back to the folder above, and
any other name leads to a place in the folder. A path that starts with a slash starts at the root.

## Main definitions

* `Chip8.Directory` — a working directory among files and folders.
* `Chip8.Directory.follow` — the place that names lead to.
* `Chip8.Directory.read` — the bytes of a file.
* `Chip8.Directory.create` — whether a file can be created.
* `Chip8.Directory.normalize`, `Chip8.Directory.resolve` — a path as it is shown.
* `Chip8.Directory.fromRoot` — a path as it is followed.
-/

namespace Chip8

/-- What is at a place. -/
inductive Directory.Item where
  /-- A file with its bytes. -/
  | file (bytes : List UInt8)
  /-- A folder. -/
  | folder
  deriving DecidableEq, Repr

/-- A working directory among files and folders. A place is given by the names that lead to it
from the root. -/
structure Directory where
  /-- The path by which the working directory is shown. -/
  path : String
  /-- The place of the working directory. -/
  place : List String
  /-- What is at a place, if anything is. -/
  item? : List String → Option Directory.Item

namespace Directory

/-! ## Following paths -/

/-- The greatest length of a name in bytes. -/
def longestName : Nat := 255

/-- The greatest length of a path in bytes. -/
def longestPath : Nat := 4095

/-- Whether a path starts at the root. -/
def isAbsolute (path : String) : Bool :=
  path.toList.head? == some '/'

/-- The names of a path. -/
def names (path : String) : List String :=
  Listing.parts '/' path

/-- The place where a path starts. -/
def origin (d : Directory) (path : String) : List String :=
  if isAbsolute path then [] else d.place

/-- Whether a name stays in a folder. -/
def stays (name : String) : Bool :=
  name == "" || name == "."

/-- The place that names lead to from a place, one after the other. Only in a folder can a name be
looked up. -/
def follow (d : Directory) (here : List String) : List String → Except Obstacle (List String)
  | [] => .ok here
  | name :: rest =>
    match d.item? here with
    | some .folder =>
      if stays name then d.follow here rest
      else if name = ".." then d.follow here.dropLast rest
      else if longestName < name.utf8ByteSize then .error .tooLong
      else if (d.item? (here ++ [name])).isNone then .error .missing
      else d.follow (here ++ [name]) rest
    | some (.file _) => .error .notFolder
    | none => .error .missing

/-- The places that names lead through from a place, whether or not there is anything. -/
def places (here : List String) : List String → List (List String)
  | [] => [here]
  | name :: rest =>
    here ::
      if stays name then places here rest
      else if name = ".." then places here.dropLast rest
      else places (here ++ [name]) rest

/-- The file at the end of a path, or what stands in the way. An empty path leads nowhere. -/
def file (d : Directory) (path : String) : Except Obstacle (List UInt8) :=
  if path.isEmpty then .error .missing
  else if longestPath < path.utf8ByteSize then .error .tooLong
  else do
    match d.item? (← d.follow (d.origin path) (names path)) with
    | some (.file bytes) => .ok bytes
    | some .folder => .error .isFolder
    | none => .error .missing

/-- The place of a new file in a folder. -/
def newFile (d : Directory) (folder : List String) (name : String) : Except Obstacle Unit :=
  match d.item? folder with
  | some .folder =>
    if stays name || name == ".." then .error .isFolder
    else if longestName < name.utf8ByteSize then .error .tooLong
    else if d.item? (folder ++ [name]) = some .folder then .error .isFolder
    else .ok ()
  | some (.file _) => .error .notFolder
  | none => .error .missing

/-- Whether a file can be created, or written anew, at the end of a path. -/
def freeFile (d : Directory) (path : String) : Except Obstacle Unit :=
  if longestPath < path.utf8ByteSize then .error .tooLong
  else do
    let folder ← d.follow (d.origin path) (names path).dropLast
    d.newFile folder ((names path).getLast?.getD "")

/-! ## Errors -/

/-- An error that shows the path where something stands in the way. No path can hold the character
of number zero. -/
def explain {α : Type} (path shown : String) (outcome : Except Obstacle α) : Except Error α :=
  if path.toList.contains '\x00' then .error .nullInPath
  else outcome.mapError fun obstacle => .blocked obstacle shown

/-- The bytes of the file at the end of a path that is shown as told. -/
def read (d : Directory) (path shown : String) : Except Error (List UInt8) :=
  explain path shown (d.file path)

/-- Whether a file can be created at the end of a path that is shown as told. -/
def create (d : Directory) (path shown : String) : Except Error Unit :=
  explain path shown (d.freeFile path)

/-! ## Paths as they are shown -/

/-- The names of a path that do not stay in a folder. -/
def moves (path : String) : List String :=
  (names path).filter fun name => !stays name

/-- The slashes that a path keeps at its start: one of them stands for any number, except that two
are kept. -/
def root (path : String) : String :=
  match (path.toList.takeWhile (· == '/')).length with
  | 0 => ""
  | 2 => "//"
  | _ => "/"

/-- A path without the names that stay in a folder. -/
def normalize (path : String) : String :=
  if !isAbsolute path && (moves path).isEmpty then "."
  else root path ++ "/".intercalate (moves path)

/-- A path that starts at the root as it is, and any other path behind the path of a folder. -/
def join (folder path : String) : String :=
  if isAbsolute path then normalize path else "/".intercalate (folder :: moves path)

/-- A path as it is shown, from the root. -/
def resolve (d : Directory) (path : String) : String :=
  join d.path path

/-- A path as it is followed from the root. -/
def fromRoot (d : Directory) (path : String) : String :=
  join ("/" ++ "/".intercalate d.place) path

end Directory

end Chip8
