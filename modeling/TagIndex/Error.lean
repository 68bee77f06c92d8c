import TagIndex.Source.Diagnostic

/-! Why a run can fail. -/

namespace TagIndex

inductive SystemError where
  | notFound
  | notDirectory
  | isDirectory
  | nameTooLong
  | tooManyLinks
  | nulInPath
  | other (text : String)
deriving BEq, DecidableEq, Inhabited, Repr

def SystemError.message : SystemError → String
  | notFound => "No such file or directory (os error 2)"
  | notDirectory => "Not a directory (os error 20)"
  | isDirectory => "Is a directory (os error 21)"
  | nameTooLong => "File name too long (os error 36)"
  | tooManyLinks => "Too many levels of symbolic links (os error 40)"
  | nulInPath => "file name contained an unexpected NUL byte"
  | other text => text

inductive Error where
  | parseFailed (path : String) (diagnostic : Diagnostic)
  | readFailed (path : String) (cause : SystemError)
  | writeFailed (path : String) (cause : SystemError)
  | io (cause : String)
deriving BEq, DecidableEq, Inhabited, Repr

def Error.message : Error → String
  | parseFailed path d => "error parsing file " ++ path ++ " - " ++ d.message path
  | readFailed path cause => "error reading file " ++ path ++ " - " ++ cause.message
  | writeFailed path cause => "error writing file " ++ path ++ " - " ++ cause.message
  | io cause => "io: " ++ cause

end TagIndex
