import Chip8.Error
import Chip8.Path

/-! A tree of folders, links and files, and what a path leads to in it. The commands read files by a
function that they are given. A tree stands in for the file system behind it, where they are run
without one. -/

namespace Chip8

/-- A place in a tree: the names that lead there from the root. -/
abbrev Location := List String

/-- The place that a path of names leads to. -/
def Location.ofPath (path : String) : Location := (Path.names path).map String.ofList

structure FileTree where
  /-- Where a path starts that does not start at the root. -/
  start : Location
  /-- The folders besides the root. -/
  folders : List Location
  /-- Links, each with the folder that it leads to. -/
  links : List (Location × Location)
  files : List (Location × List UInt8)
  /-- Folders that set no limit to the names in them, and to those further down. -/
  unlimited : List Location

namespace FileTree

/-- What a path leads to. -/
inductive Target where
  | folder (location : Location)
  | file (contents : List UInt8)

/-- What is at a place. A link is followed. -/
def find? (t : FileTree) (location : Location) : Option Target :=
  match t.files.lookup location with
  | some contents => some (.file contents)
  | none =>
    match t.links.lookup location with
    | some other => some (.folder other)
    | none => if t.folders.contains location then some (.folder location) else none

/-- Whether a folder can be asked for a name. -/
def takesName (t : FileTree) (location : Location) (name : String) : Bool :=
  name.utf8ByteSize ≤ Path.maxNameBytes || t.unlimited.any (·.isPrefixOf location)

/-- Follows one piece of a path. The root is above itself, and nothing is behind a file, not even a
dot. -/
def follow (t : FileTree) : Target → List Char → Except SystemError Target
  | .file _, _ => .error .notADirectory
  | .folder location, piece =>
    if Path.staysPut piece then .ok (.folder location)
    else if Path.climbs piece then .ok (.folder location.dropLast)
    else
      let name := String.ofList piece
      if !t.takesName location name then .error .nameTooLong
      else
        match t.find? (location ++ [name]) with
        | some target => .ok target
        | none => .error .notFound

/-- What is at the end of a path. -/
def resolve (t : FileTree) (path : String) : Except SystemError Target :=
  if path.isEmpty then .error .notFound
  else if Path.maxBytes < path.utf8ByteSize then .error .nameTooLong
  else (Path.pieces path).foldlM t.follow (.folder (if Path.isAbsolute path then [] else t.start))

/-- The contents of the file at a path. -/
def read (t : FileTree) (path : String) : Except IoCause (List UInt8) :=
  if Path.holdsZero path then .error .zeroInName
  else
    match t.resolve path with
    | .ok (.file contents) => .ok contents
    | .ok (.folder _) => .error (.system .isADirectory)
    | .error e => .error (.system e)

end FileTree

end Chip8
