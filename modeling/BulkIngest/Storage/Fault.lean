/-!
What the operating system says when it refuses a file operation.
-/

namespace BulkIngest

inductive StorageFault
  | notFound
  | notADirectory
  | isADirectory
  | invalidArgument
  | fileTooLarge
  | noSpace
  | nameTooLong
  /-- A zero octet in a path. -/
  | zeroInName
deriving DecidableEq

def StorageFault.message : StorageFault → String
  | .notFound => "No such file or directory (os error 2)"
  | .notADirectory => "Not a directory (os error 20)"
  | .isADirectory => "Is a directory (os error 21)"
  | .invalidArgument => "Invalid argument (os error 22)"
  | .fileTooLarge => "File too large (os error 27)"
  | .noSpace => "No space left on device (os error 28)"
  | .nameTooLong => "File name too long (os error 36)"
  | .zeroInName => "file name contained an unexpected NUL byte"

end BulkIngest
