/-
  The faults of file system operations, with their numbers
  and their texts.

  Key definitions include:
    * `FileFault`
    * `FileFault.message`
-/

------------------------------------------------------------
-- Faults
------------------------------------------------------------

namespace TreeKeeper

/- Why a file system operation fails. -/
inductive FileFault where
| missing
| noDevice
| noExecFormat
| denied
| busy
| notDirectory
| isDirectory
| nameTooLong
| notEmpty
| tooManyLinks
| zeroInName
deriving DecidableEq

namespace FileFault

/- The text of a fault with its number. -/
def numbered (text : String) (number : Nat) : String :=
  text ++ " (os error " ++ toString number ++ ")"

/- The report of a fault. -/
def message : FileFault → String
| missing => numbered "No such file or directory" 2
| noDevice => numbered "No such device or address" 6
| noExecFormat => numbered "Exec format error" 8
| denied => numbered "Permission denied" 13
| busy => numbered "Device or resource busy" 16
| notDirectory => numbered "Not a directory" 20
| isDirectory => numbered "Is a directory" 21
| nameTooLong => numbered "File name too long" 36
| notEmpty => numbered "Directory not empty" 39
| tooManyLinks =>
    numbered "Too many levels of symbolic links" 40
| zeroInName =>
    "file name contained an unexpected NUL byte"

end FileFault

end TreeKeeper
