import RuntimeLauncher.Text.Basic

/-! Why an operation on files or processes is refused. -/
namespace RuntimeLauncher

inductive Failure where
  | notFound
  | notExecutable
  | permissionDenied
  | notADirectory
  | isADirectory
  | nameTooLong
  | tooManyLinks
  | nulInName
  | nulInArgument
  /-- The source of a copy is something other than a regular file. -/
  | notARegularFile
  | notText
  deriving DecidableEq, Repr

namespace Failure

/-- The description with the number the system gives it. -/
def message : Failure → Text
  | .notFound => "No such file or directory (os error 2)".toList
  | .notExecutable => "Exec format error (os error 8)".toList
  | .permissionDenied => "Permission denied (os error 13)".toList
  | .notADirectory => "Not a directory (os error 20)".toList
  | .isADirectory => "Is a directory (os error 21)".toList
  | .nameTooLong => "File name too long (os error 36)".toList
  | .tooManyLinks => "Too many levels of symbolic links (os error 40)".toList
  | .nulInName => "file name contained an unexpected NUL byte".toList
  | .nulInArgument => "nul byte found in provided data".toList
  | .notARegularFile =>
    "the source path is neither a regular file nor a symlink to a regular file".toList
  | .notText => "stream did not contain valid UTF-8".toList

end Failure

end RuntimeLauncher
