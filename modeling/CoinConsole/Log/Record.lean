/-!
# Log records

A record is a message from one part of the program with a level that says how much it matters; it
may go into details below its first line. Levels are integers; five of them have names, and two
names are spelled in two ways.
-/

namespace CoinConsole.Log

/-- How much a record matters. -/
abbrev Level := Int

namespace Level

/-- The level of detail meant for finding faults. -/
def debug : Level := 10

/-- The level of ordinary events. -/
def info : Level := 20

/-- The level of what may go wrong. -/
def warning : Level := 30

/-- The level of what went wrong. -/
def error : Level := 40

/-- The level of what ends the program. -/
def critical : Level := 50

/-- The words for levels, with `NOTSET` for the absence of one. -/
def names : List (String × Level) :=
  [("CRITICAL", critical), ("FATAL", critical), ("ERROR", error), ("WARN", warning),
   ("WARNING", warning), ("INFO", info), ("DEBUG", debug), ("NOTSET", 0)]

/-- The word a record of the level is shown with. -/
def label (level : Level) : String :=
  if level = debug then "DEBUG"
  else if level = info then "INFO"
  else if level = warning then "WARNING"
  else if level = error then "ERROR"
  else if level = critical then "CRITICAL"
  else if level = 0 then "NOTSET"
  else s!"Level {level}"

end Level

/-- A message from the part of the program called `logger`. -/
structure Record where
  level : Level
  logger : String
  message : String
  details : List String := []
deriving DecidableEq

namespace Record

/-- The line for a record made at the given time. -/
def line (time : String) (record : Record) : String :=
  s!"{time} {record.level.label} {record.logger}: {record.message}"

/-- The line for a record made at the given time, and its details below. -/
def text (time : String) (record : Record) : String :=
  "\n".intercalate (record.line time :: record.details)

end Record

end CoinConsole.Log
