import CoinConsole.Files.Path

/-!
# Errors about save files

The three ways in which the save file of a game can stand in the way of playing: it is not there,
it cannot be used, or it cannot be created.
-/

namespace CoinConsole

/-- Why a game has no save file to play on. -/
inductive SaveError
  | missing (path : Path)
  | corrupt (path : Path) (reason : String)
  | notCreated (path : Path) (reason : String)
deriving DecidableEq

namespace SaveError

/-- The path of the save file. -/
def path : SaveError → Path
  | missing p => p
  | corrupt p _ => p
  | notCreated p _ => p

/-- What is wrong with the save file. -/
def reason : SaveError → String
  | missing _ => "file does not exist"
  | corrupt _ r => r
  | notCreated _ r => r

/-- The wording of the error. -/
def message (error : SaveError) : String :=
  s!"Failed to load game save {error.path.text}: {error.reason}"

end SaveError

end CoinConsole
