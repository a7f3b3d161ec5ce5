/-!
# Faults of files

Why a file could not be read or written, in the wording of the operating system.
-/

namespace LoraGateway

/-- Why a file could not be read or written. -/
inductive FileError
  | notFound
  | alreadyExists
  | notADirectory
  | isADirectory
  /-- A name of more than 255 bytes. -/
  | nameTooLong
  /-- The file is read as a text and is none. -/
  | notText
  deriving DecidableEq, Repr

/-- The wording of a fault. -/
def FileError.message : FileError → String
  | .notFound => "No such file or directory (os error 2)"
  | .alreadyExists => "File exists (os error 17)"
  | .notADirectory => "Not a directory (os error 20)"
  | .isADirectory => "Is a directory (os error 21)"
  | .nameTooLong => "File name too long (os error 36)"
  | .notText => "stream did not contain valid UTF-8"

end LoraGateway
