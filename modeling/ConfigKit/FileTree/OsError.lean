-- SUMMARY: The errors of the operating system that operations on files meet, with their numbers and texts.
/-!
# Errors of the operating system

Why an operation on files can fail, with the number that the system gives to each reason.
-/

namespace ConfigKit

/-- Why the system refuses an operation on files. -/
inductive OsError where
  | notFound
  | fileExists
  | notDirectory
  | isDirectory
  | invalidArgument
  | nameTooLong
  | tooManyLinks
  | notEmpty
  | busy
  /-- The path holds a NUL, so the system is not even asked. -/
  | nulInPath
  deriving DecidableEq

def OsError.message : OsError → String
  | .notFound => "No such file or directory (os error 2)"
  | .fileExists => "File exists (os error 17)"
  | .notDirectory => "Not a directory (os error 20)"
  | .isDirectory => "Is a directory (os error 21)"
  | .invalidArgument => "Invalid argument (os error 22)"
  | .nameTooLong => "File name too long (os error 36)"
  | .tooManyLinks => "Too many levels of symbolic links (os error 40)"
  | .notEmpty => "Directory not empty (os error 39)"
  | .busy => "Device or resource busy (os error 16)"
  | .nulInPath => "file name contained an unexpected NUL byte"

end ConfigKit
