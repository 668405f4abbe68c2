/-!
# Reading files

The presets and the configuration may stand in files. What a file holds is given by a function from
paths to contents, so that reading is a plain argument of everything that depends on it.
-/

namespace ImageRequest

/-- Why a file cannot be read. -/
inductive FileError where
  | notFound
  | isDirectory
  /-- The path leads through a file as if it were a directory. -/
  | notDirectory
  | nameTooLong
  /-- The path holds a character that no name can hold. -/
  | zeroInName
  | permissionDenied
  /-- The content is not text. -/
  | notText
  | other (description : String)
deriving Repr, DecidableEq

/-- The text of the error, as operating systems word it. -/
def FileError.message : FileError → String
  | .notFound => "No such file or directory (os error 2)"
  | .isDirectory => "Is a directory (os error 21)"
  | .notDirectory => "Not a directory (os error 20)"
  | .nameTooLong => "File name too long (os error 36)"
  | .zeroInName => "file name contained an unexpected NUL byte"
  | .permissionDenied => "Permission denied (os error 13)"
  | .notText => "stream did not contain valid UTF-8"
  | .other description => description

/-- What the file at a path holds. -/
abbrev Files := String → Except FileError String

/-- The character that ends a path for operating systems, so that no path can hold it. -/
def Files.endOfPath : Char :=
  '\x00'

end ImageRequest
