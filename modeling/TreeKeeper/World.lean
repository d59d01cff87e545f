import TreeKeeper.FileTree.Operations

/-
  What programs share: the file tree, the directory they
  start paths from, and the log.

  Key definitions include:
    * `LogLevel`
    * `LogRecord`
    * `World`
-/

------------------------------------------------------------
-- Log Records
------------------------------------------------------------

namespace TreeKeeper

/- How serious a log record is. -/
inductive LogLevel where
| error
| warning
| info
deriving DecidableEq

/- One line of the log. -/
structure LogRecord where
  level : LogLevel
  text : String
deriving DecidableEq

------------------------------------------------------------
-- Worlds
------------------------------------------------------------

/-
  The file tree, the working directory, and the log with the
  oldest record first.
-/
structure World where
  tree : FileTree := FileTree.empty
  directory : Location := []
  log : List LogRecord := []

namespace World

/- Add a log record. -/
def note
    (world : World)
    (level : LogLevel)
    (text : String) : World :=
  { world with log := world.log ++ [⟨level, text⟩] }

/- Log an error. -/
def error (world : World) (text : String) : World :=
  world.note .error text

/- Log a warning. -/
def warn (world : World) (text : String) : World :=
  world.note .warning text

/- Log an event. -/
def info (world : World) (text : String) : World :=
  world.note .info text

/- Replace the file tree. -/
def withTree (world : World) (tree : FileTree) : World :=
  { world with tree := tree }

end World

end TreeKeeper
