import CoinConsole.Files.FileSystem
import CoinConsole.Log.Record
import CoinConsole.Save.Error
import CoinConsole.Save.Schema

/-!
# Save files

Loading reads the save file and checks its content. Saving writes the new content beside the save
file first and then moves it over the old one, so that the old one is there until the new one is
complete; when a step fails, what has been written beside it is removed again.
-/

namespace CoinConsole

/-- Why a path cannot be used as a save file at all. -/
inductive PathFault
  | nullByte
  | emptyName (path : Path)
deriving DecidableEq

/-- The wording of the error. -/
def PathFault.message : PathFault → String
  | nullByte => "embedded null byte"
  | emptyName path => s!"PosixPath({Text.quoted path.text}) has an empty name"

/-- What stands in the way of reading a save file. -/
inductive LoadFault
  | file (error : FileError)
  | content (error : SchemaError)
deriving DecidableEq

namespace LoadFault

/-- The error about the save file at `path`. -/
def error (path : Path) : LoadFault → SaveError
  | file .missing => .missing path
  | file e => .corrupt path e.message
  | content e => .corrupt path e.reason

/-- The fault in full. -/
def account [SaveFormat] : LoadFault → List String
  | file e => [e.message]
  | content e => SaveFormat.account e

end LoadFault

/-- Why a game is not loaded. -/
inductive LoadError
  | save (path : Path) (fault : LoadFault)
  | path (fault : PathFault)
  | notText
deriving DecidableEq

/-- What stands in the way of a new save file. -/
inductive InitFault
  | present
  | notWritten
deriving DecidableEq

/-- The wording of the fault. -/
def InitFault.reason : InitFault → String
  | present => "refusing to overwrite an existing save"
  | notWritten => "could not write a fresh save"

/-- Why a game is not created. -/
inductive InitError
  | save (path : Path) (fault : InitFault)
  | path (fault : PathFault)
  | file (error : FileError)
deriving DecidableEq

namespace Save

/-- The save file used when none is named. -/
def defaultPath : Path := Path.ofText "game.save"

/-! ## Loading -/

section

variable [SaveFormat]

/-- The state kept in a save file. -/
def load (files : FileSystem) (path : Path) : Except LoadError Root :=
  match files.read path with
  | .error .nullByte => .error (.path .nullByte)
  | .error (.file e) => .error (.save path (.file e))
  | .ok content =>
    match String.fromUTF8? content with
    | none => .error .notText
    | some text =>
      match Schema.read text with
      | .error e => .error (.save path (.content e))
      | .ok root => .ok root

end

/-! ## Saving -/

theorem isPathName_append_tmp {name : String} (h : isPathName name = true) :
    isPathName (name ++ ".tmp") = true := by
  simp only [isPathName, Bool.and_eq_true, bne_iff_ne, ne_eq, Bool.not_eq_true',
    List.contains_eq_mem, decide_eq_false_iff_not] at h ⊢
  obtain ⟨⟨-, -⟩, hslash⟩ := h
  refine ⟨⟨fun hc => ?_, fun hc => ?_⟩, ?_⟩
  · simpa using congrArg (fun s => s.toList.length) hc
  · have := congrArg (fun s => s.toList.length) hc
    simp at this
  · rw [String.toList_append, List.mem_append]
    exact fun hc => hc.elim hslash (by decide)

/-- The path beside `path` to which a new content is written first. -/
def staging? (path : Path) : Option Path :=
  match h : path.names.getLast? with
  | none => none
  | some name =>
    some
      { anchor := path.anchor
        names := path.names.dropLast ++ [name ++ ".tmp"]
        names_valid := by
          intro other hother
          rcases List.mem_append.1 hother with hold | hnew
          · exact path.names_valid other ((List.dropLast_sublist _).subset hold)
          · rw [List.mem_singleton.1 hnew]
            exact isPathName_append_tmp (path.names_valid name (List.mem_of_getLast? h)) }

/-- The file system without the file at `path`, if there is one that can be removed. -/
def discard (files : FileSystem) (path : Path) : FileSystem :=
  match files.remove path with
  | .error _ => files
  | .ok files => files

section

variable [SaveFormat]

/-- Writes a state to a save file. The answer says whether this worked. -/
def save (files : FileSystem) (path : Path) (root : Root) : Except PathFault Bool × FileSystem :=
  match staging? path with
  | none => (.error (.emptyName path), files)
  | some staging =>
    match files.write staging (SaveFormat.write root).toUTF8 with
    | .error .nullByte => (.error .nullByte, files)
    | .error (.file _) => (.ok false, discard files staging)
    | .ok written =>
      match written.replace staging path with
      | .error _ => (.ok false, discard written staging)
      | .ok replaced => (.ok true, replaced)

/-! ## Creating -/

/-- Writes the save file of a new game, over an old one only if asked to. -/
def init (files : FileSystem) (path : Path) (overwrite : Bool) :
    Except InitError Root × FileSystem :=
  match files.pathExists path with
  | .error e => (.error (.file e), files)
  | .ok present =>
    if present && !overwrite then (.error (.save path .present), files)
    else
      match save files path {} with
      | (.error fault, files) => (.error (.path fault), files)
      | (.ok false, files) => (.error (.save path .notWritten), files)
      | (.ok true, files) => (.ok {}, files)

/-! ## Sessions -/

/-- A game loaded for a session, what the session made of it, and whether that could be saved. -/
structure Session (α : Type) where
  result : α
  saved : Except PathFault Bool
  files : FileSystem

/-- Loads a game, plays on it, and saves it again, however playing ends. Playing may change other
files; its result is kept as it is. -/
def session {α : Type} (files : FileSystem) (path : Path)
    (play : Root → FileSystem → α × Root × FileSystem) : Except LoadError (Session α) :=
  match load files path with
  | .error e => .error e
  | .ok root =>
    let (result, root, files) := play root files
    let (saved, files) := save files path root
    .ok { result, saved, files }

end

/-! ## Log records -/

/-- The part of the program that loads and saves, as named in log records. -/
def logger : String := "termgame.game.save"

/-- What is logged when a game has been loaded. -/
def loadedRecord (path : Path) : Log.Record :=
  { level := .info, logger, message := s!"Loaded game save from {path.text}" }

/-- What is logged when a game has been saved, or could not be. -/
def savedRecord (path : Path) (saved : Bool) : Log.Record :=
  if saved then { level := .info, logger, message := s!"Saved game root to {path.text}" }
  else { level := .error, logger, message := s!"Failed to save game root to {path.text}" }

/-- What is logged when a new game has been saved, or could not be. -/
def initRecord? (path : Path) : Except InitError Root → Option Log.Record
  | .ok _ => some (savedRecord path true)
  | .error (.save _ .notWritten) => some (savedRecord path false)
  | .error _ => none

end Save

end CoinConsole
