import CoinConsole.Files.Path

/-!
# File systems

A file system is a table of files and directories by location, a location being the list of names
that lead to it from the root. One directory is current: paths without an anchor start there.

Paths are walked one name at a time. Every directory on the way has to be there, a file cannot
stand in for one, `..` leads to the directory above, and names and paths have a greatest length.
The operations below are the ones a program uses on whole files. Each answers with the reason when
it fails, and only those that succeed change anything.
-/

namespace CoinConsole

/-- The names that lead from the root to a file or directory. -/
abbrev Location := List String

/-- Contents of files are equal if their bytes are. -/
instance decidableEqContent : DecidableEq ByteArray := fun content other =>
  decidable_of_iff (content.data = other.data)
    ⟨ByteArray.ext, fun h => congrArg ByteArray.data h⟩

/-- What can stand at a location. -/
inductive Node
  | file (content : ByteArray)
  | directory
deriving DecidableEq

/-- Why the operating system refuses an operation on a path. -/
inductive FileError
  | missing
  | notDirectory
  | isDirectory
  | nameTooLong
deriving DecidableEq

/-- The wording of the error. -/
def FileError.message : FileError → String
  | missing => "No such file or directory"
  | notDirectory => "Not a directory"
  | isDirectory => "Is a directory"
  | nameTooLong => "File name too long"

/-- Why a path cannot be used: the system refuses it, or it cannot even be asked. -/
inductive AccessError
  | file (error : FileError)
  | nullByte
deriving DecidableEq

/-- Files and directories by location, and the current directory. -/
structure FileSystem where
  current : Location
  nodes : List (Location × Node)

namespace FileSystem

/-! ## The table -/

/-- What stands at a location. The root is always a directory. -/
def node? (files : FileSystem) (place : Location) : Option Node :=
  if place = [] then some .directory else files.nodes.lookup place

/-- The file system without what stands at a location. -/
def erase (files : FileSystem) (place : Location) : FileSystem :=
  { files with nodes := files.nodes.filter fun entry => entry.1 != place }

/-- The file system with `node` at a location. -/
def put (files : FileSystem) (place : Location) (node : Node) : FileSystem :=
  { files with nodes := (place, node) :: (files.erase place).nodes }

/-- The file system without a location and everything below it. -/
def eraseTree (files : FileSystem) (place : Location) : FileSystem :=
  { files with nodes := files.nodes.filter fun entry => !place.isPrefixOf entry.1 }

/-! ## Walking a path -/

/-- The most bytes a name may have. -/
def maxNameBytes : Nat := 255

/-- The most bytes a path may have. -/
def maxPathBytes : Nat := 4095

/-- The location that `names` lead to from `place`. Only the last one may be missing. -/
def walk (files : FileSystem) (place : Location) : List String → Except FileError Location
  | [] => .ok place
  | name :: rest =>
    match files.node? place with
    | none => .error .missing
    | some (.file _) => .error .notDirectory
    | some .directory =>
      if maxNameBytes < name.utf8ByteSize then .error .nameTooLong
      else if name = ".." then walk files place.dropLast rest
      else walk files (place ++ [name]) rest

/-- The locations passed on the way from `place` along `names`, both ends included. -/
def trail (place : Location) : List String → List Location
  | [] => [place]
  | name :: rest =>
    place :: trail (if name = ".." then place.dropLast else place ++ [name]) rest

/-- The location a path leads to. -/
def resolve (files : FileSystem) (path : Path) : Except FileError Location :=
  if maxPathBytes < path.text.utf8ByteSize then .error .nameTooLong
  else
    match path.anchor with
    | .current => files.walk files.current path.names
    | _ => files.walk [] path.names

/-- The location a path leads to, if the path can be handed over at all. -/
def access (files : FileSystem) (path : Path) : Except AccessError Location :=
  if path.hasNull then .error .nullByte
  else
    match files.resolve path with
    | .error e => .error (.file e)
    | .ok place => .ok place

/-! ## Operations -/

/-- Whether something stands at a path. -/
def pathExists (files : FileSystem) (path : Path) : Except FileError Bool :=
  match files.access path with
  | .error .nullByte => .ok false
  | .error (.file .nameTooLong) => .error .nameTooLong
  | .error (.file _) => .ok false
  | .ok place => .ok (files.node? place).isSome

/-- The content of a file. -/
def read (files : FileSystem) (path : Path) : Except AccessError ByteArray :=
  match files.access path with
  | .error e => .error e
  | .ok place =>
    match files.node? place with
    | none => .error (.file .missing)
    | some .directory => .error (.file .isDirectory)
    | some (.file content) => .ok content

/-- Writes a file, over the one that is there. -/
def write (files : FileSystem) (path : Path) (content : ByteArray) :
    Except AccessError FileSystem :=
  match files.access path with
  | .error e => .error e
  | .ok place =>
    match files.node? place with
    | some .directory => .error (.file .isDirectory)
    | _ => .ok (files.put place (.file content))

/-- Removes a file. -/
def remove (files : FileSystem) (path : Path) : Except AccessError FileSystem :=
  match files.access path with
  | .error e => .error e
  | .ok place =>
    match files.node? place with
    | none => .error (.file .missing)
    | some .directory => .error (.file .isDirectory)
    | some (.file _) => .ok (files.erase place)

/-- Moves the file `source` to `target`, over a file that is there, but not over a directory. -/
def replace (files : FileSystem) (source target : Path) : Except AccessError FileSystem :=
  match files.access source, files.access target with
  | .error e, _ => .error e
  | .ok _, .error e => .error e
  | .ok origin, .ok place =>
    match files.node? origin, files.node? place with
    | none, _ => .error (.file .missing)
    | some .directory, _ => .error (.file .isDirectory)
    | some (.file _), some .directory => .error (.file .isDirectory)
    | some (.file content), _ => .ok ((files.erase origin).put place (.file content))

/-- Opens a file to append to it, which creates it if need be, and says where it is. -/
def openAppend (files : FileSystem) (path : Path) : Except AccessError (Location × FileSystem) :=
  match files.access path with
  | .error e => .error e
  | .ok place =>
    match files.node? place with
    | some .directory => .error (.file .isDirectory)
    | some (.file _) => .ok (place, files)
    | none => .ok (place, files.put place (.file ByteArray.empty))

/-- Appends to an open file; nothing is kept if it has been removed. -/
def append (files : FileSystem) (place : Location) (content : ByteArray) : FileSystem :=
  match files.node? place with
  | some (.file old) => files.put place (.file (old ++ content))
  | _ => files

/-- Removes a directory with all it holds. -/
def removeTree (files : FileSystem) (path : Path) : Except AccessError FileSystem :=
  match files.access path with
  | .error e => .error e
  | .ok place =>
    match files.node? place with
    | none => .error (.file .missing)
    | some (.file _) => .error (.file .notDirectory)
    | some .directory => .ok (files.eraseTree place)

/-- Makes the directories that are missing on the way along `names` from `place`, and says where
that leads. -/
def makeDirectories (files : FileSystem) (place : Location) :
    List String → Except FileError (Location × FileSystem)
  | [] => .ok (place, files)
  | name :: rest =>
    match files.node? place with
    | none => .error .missing
    | some (.file _) => .error .notDirectory
    | some .directory =>
      if maxNameBytes < name.utf8ByteSize then .error .nameTooLong
      else if name = ".." then makeDirectories files place.dropLast rest
      else
        let place := place ++ [name]
        match files.node? place with
        | some _ => makeDirectories files place rest
        | none => makeDirectories (files.put place .directory) place rest

/-- What stands below the current directory, with the names that lead there from it. -/
def listing (files : FileSystem) : List (Location × Node) :=
  (files.nodes.filter fun entry =>
    files.current.isPrefixOf entry.1 && entry.1 != files.current).map fun entry =>
      (entry.1.drop files.current.length, entry.2)

end FileSystem

/-! ## Paths without detours -/

/-- Adds a name to the names before it, the last one first; `..` takes the last one away. -/
def Path.pushName (names : List String) (name : String) : List String :=
  if name = ".." then names.tail else name :: names

/-- The names that lead from the root along a path. -/
def FileSystem.namesFromRoot (files : FileSystem) (path : Path) : List String :=
  match path.anchor with
  | .current => files.current ++ path.names
  | _ => path.names

/-- The absolute path a path stands for when `..` undoes the name before it, whatever that is. -/
def FileSystem.absolute (files : FileSystem) (path : Path) : Path :=
  let anchor := match path.anchor with
    | .current => .root
    | anchor => anchor
  { anchor
    names := ((files.namesFromRoot path).foldl Path.pushName []).reverse.filter isPathName
    names_valid := fun _ h => (List.mem_filter.1 h).2 }

end CoinConsole
