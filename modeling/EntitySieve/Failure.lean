import EntitySieve.Text.Basic

/-! Why an operation fails, and the wording of it. -/
namespace EntitySieve

/-- Why a file could not be read or written. -/
inductive IoCause where
  | notFound
  | notDirectory
  | isDirectory
  | nameTooLong
  | invalidUtf8
  | nulInName
  | other (message : Text)
  deriving DecidableEq

def IoCause.message : IoCause → Text
  | notFound => "No such file or directory (os error 2)"
  | notDirectory => "Not a directory (os error 20)"
  | isDirectory => "Is a directory (os error 21)"
  | nameTooLong => "File name too long (os error 36)"
  | invalidUtf8 => "stream did not contain valid UTF-8"
  | nulInName => "file name contained an unexpected NUL byte"
  | other m => m

inductive Failure where
  | source (file : Text) (cause : IoCause)
  | render (message : Text)
  | config (message : Text)
  | io (cause : IoCause)
  deriving DecidableEq

namespace Failure

def message : Failure → Text
  | source file cause => "Error loading " ++ file ++ ": " ++ cause.message
  | render m => "Error rendering diagram: " ++ m
  | config m => "Configuration error: " ++ m
  | io cause => "IO error: " ++ cause.message

/-- The source that could not be loaded, if that is what failed. -/
def file? : Failure → Option Text
  | source file _ => some file
  | _ => none

end Failure

end EntitySieve
