import TexWorkspace.Files.IoError
import TexWorkspace.Path

set_option autoImplicit false

/-!
A disk as a value: directories, files and symbolic links by their place, and the operations on them.
A path is followed name by name; a link is replaced by the path it holds. An operation that fails
leaves the disk as it was, except that directories made on the way stay.
-/

namespace TexWorkspace.Files

/-- A place on a disk: the names that lead to it from the root. -/
abbrev Location := List String

inductive Node where
  | directory
  | file (content : ByteArray)
  | link (target : String)

/-- A disk, with the place at which relative paths start. The root is always a directory. -/
structure Disk where
  nodes : List (Location × Node) := []
  current : Location := []

def Location.toPath (location : Location) : Path :=
  ⟨"/" ++ "/".intercalate location⟩

def maxNameLength : Nat := 255

def maxPathLength : Nat := 4095

def maxLinks : Nat := 40

namespace Disk

def node? (disk : Disk) : Location → Option Node
  | [] => some .directory
  | location => disk.nodes.lookup location

def put (disk : Disk) (location : Location) (node : Node) : Disk :=
  { disk with
    nodes := (location, node) :: disk.nodes.filter fun (other, _) => other != location }

/-! ## Following paths -/

/-- Where a path leads: to something, or to a place in a directory where nothing is yet. -/
inductive Target where
  | existing (location : Location) (node : Node)
  | vacant (directory : Location) (name : String)

inductive Purpose where
  | find
  | create
  deriving DecidableEq, Repr

/-- Follows names from a directory. To create a file, its name must not end in a slash. -/
def follow (disk : Disk) (purpose : Purpose) (links : Nat) (directory : Location)
    (names : List String) : Except IoError Target :=
  match names with
  | [] => .ok (.existing directory .directory)
  | name :: rest =>
      if name = "" ∨ name = "." then disk.follow purpose links directory rest
      else if name = ".." then disk.follow purpose links directory.dropLast rest
      else if purpose = .create ∧ rest ≠ [] ∧ rest.all (· = "") then .error .isADirectory
      else if maxNameLength < name.utf8ByteSize then .error .nameTooLong
      else
        match disk.node? (directory ++ [name]) with
        | none => if rest = [] then .ok (.vacant directory name) else .error .notFound
        | some .directory => disk.follow purpose links (directory ++ [name]) rest
        | some (.file content) =>
            if rest = [] then .ok (.existing (directory ++ [name]) (.file content))
            else .error .notADirectory
        | some (.link target) =>
            match links with
            | 0 => .error .tooManyLinks
            | fewer + 1 =>
                let start := if Path.isAbsolute ⟨target⟩ then [] else directory
                disk.follow purpose fewer start (Path.segments target ++ rest)
termination_by (links, names.length)

/-- What rules out a path of any length: it names nothing. -/
def textRefusal? (path : Path) : Option IoError :=
  if path.text.toList.contains (Char.ofNat 0) then some .nulInPath
  else if path.text = "" then some .notFound
  else none

def refusal? (path : Path) : Option IoError :=
  match textRefusal? path with
  | some error => some error
  | none => if maxPathLength < path.text.utf8ByteSize then some .nameTooLong else none

def start (disk : Disk) (path : Path) : Location :=
  if path.isAbsolute then [] else disk.current

def resolve (disk : Disk) (purpose : Purpose) (path : Path) : Except IoError Target :=
  match refusal? path with
  | some error => .error error
  | none => disk.follow purpose maxLinks (disk.start path) (Path.segments path.text)

def directory? (disk : Disk) (path : Path) : Option Location :=
  match disk.resolve .find path with
  | .ok (.existing location .directory) => some location
  | _ => none

/-! ## Directories -/

/-- Makes a directory inside one that is there. The last name of the path is not followed. -/
def makeDirectory (disk : Disk) (path : Path) : Except IoError Disk :=
  match refusal? path with
  | some error => .error error
  | none =>
      let names := (Path.segments path.text).reverse.dropWhile (· = "")
      match disk.follow .find maxLinks (disk.start path) (names.drop 1).reverse with
      | .error error => .error error
      | .ok (.vacant _ _) => .error .notFound
      | .ok (.existing _ (.file _)) => .error .notADirectory
      | .ok (.existing _ (.link _)) => .error .notADirectory
      | .ok (.existing parent .directory) =>
          match names.head? with
          | none => .error .alreadyExists
          | some name =>
              if name = "." ∨ name = ".." then .error .alreadyExists
              else if maxNameLength < name.utf8ByteSize then .error .nameTooLong
              else
                match disk.node? (parent ++ [name]) with
                | some _ => .error .alreadyExists
                | none => .ok (disk.put (parent ++ [name]) .directory)

def ensureDirectory (disk : Disk) (path : Path) : Except IoError Disk :=
  match disk.makeDirectory path with
  | .ok made => .ok made
  | .error error => if (disk.directory? path).isSome then .ok disk else .error error

def createWithin (disk : Disk) (path : Path) : List Path → Except IoError Unit × Disk
  | [] =>
      if path.text = "" then (.ok (), disk)
      else
        match disk.ensureDirectory path with
        | .ok made => (.ok (), made)
        | .error error => (.error (if error.kind = .notFound then .noTree else error), disk)
  | parent :: outer =>
      match disk.ensureDirectory path with
      | .ok made => (.ok (), made)
      | .error error =>
          if error.kind = .notFound then
            match disk.createWithin parent outer with
            | (.error error, made) => (.error error, made)
            | (.ok (), made) =>
                match made.ensureDirectory path with
                | .ok all => (.ok (), all)
                | .error error => (.error error, made)
          else (.error error, disk)

/-- Makes a directory and all that contain it. The empty path asks for nothing. -/
def createDirectories (disk : Disk) (path : Path) : Except IoError Unit × Disk :=
  disk.createWithin path path.parents

/-- The absolute path, free of links, of the directory that a path leads to. Such a path is followed
a name at a time, so only what it comes to is held to the longest path. -/
def findDirectory? (disk : Disk) (path : Path) : Option Path :=
  if (textRefusal? path).isSome then none
  else
    match disk.follow .find maxLinks (disk.start path) (Path.segments path.text) with
    | .ok (.existing location .directory) =>
        if maxPathLength < location.toPath.text.utf8ByteSize then none else some location.toPath
    | _ => none

/-! ## Files -/

def createFile (disk : Disk) (path : Path) : Except IoError Disk :=
  match disk.resolve .create path with
  | .error error => .error error
  | .ok (.vacant directory name) => .ok (disk.put (directory ++ [name]) (.file .empty))
  | .ok (.existing _ .directory) => .error .isADirectory
  | .ok (.existing _ _) => .ok disk

/-- Replaces the content of a file, which is made if it is not there. -/
def writeFile (disk : Disk) (path : Path) (content : ByteArray) : Except IoError Disk :=
  match disk.resolve .create path with
  | .error error => .error error
  | .ok (.vacant directory name) => .ok (disk.put (directory ++ [name]) (.file content))
  | .ok (.existing _ .directory) => .error .isADirectory
  | .ok (.existing location _) => .ok (disk.put location (.file content))

def readText (disk : Disk) (path : Path) : Except IoError String :=
  match disk.resolve .find path with
  | .error error => .error error
  | .ok (.vacant _ _) => .error .notFound
  | .ok (.existing _ (.file content)) =>
      match String.fromUTF8? content with
      | some text => .ok text
      | none => .error .notText
  | .ok (.existing _ _) => .error .isADirectory

def createLink (disk : Disk) (path : Path) (target : String) : Except IoError Disk :=
  match refusal? path with
  | some error => .error error
  | none =>
      let names := (Path.segments path.text).reverse
      match disk.follow .find maxLinks (disk.start path) (names.drop 1).reverse, names.head? with
      | .ok (.existing parent .directory), some name =>
          match disk.node? (parent ++ [name]) with
          | some _ => .error .alreadyExists
          | none => .ok (disk.put (parent ++ [name]) (.link target))
      | .error error, _ => .error error
      | _, _ => .error .notFound

/-! ## Listing -/

def listing (disk : Disk) (location : Location) : List (String × Node) :=
  let below := disk.nodes.filterMap fun (place, node) =>
    if location.isPrefixOf place && place != location then
      some ("/".intercalate (place.drop location.length), node)
    else none
  below.mergeSort fun (left, _) (right, _) => left ≤ right

end Disk

end TexWorkspace.Files
