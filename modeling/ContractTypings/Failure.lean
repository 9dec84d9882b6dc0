import ContractTypings.Json.Fault
import ContractTypings.Path

namespace ContractTypings

inductive IoKind where
  | notFound
  | notADirectory
  | isADirectory
  | alreadyExists
  | invalidFilename
  | filesystemLoop
  | invalidInput
  | invalidData
  | other
  deriving Repr, DecidableEq

inductive IoCause where
  | notFound
  | notADirectory
  | isADirectory
  | alreadyExists
  | nameTooLong
  | tooManyLinks
  | nulInName
  | notUtf8
  | described (kind : IoKind) (text : String)
  deriving Repr, DecidableEq

def IoCause.kind : IoCause → IoKind
  | .notFound => .notFound
  | .notADirectory => .notADirectory
  | .isADirectory => .isADirectory
  | .alreadyExists => .alreadyExists
  | .nameTooLong => .invalidFilename
  | .tooManyLinks => .filesystemLoop
  | .nulInName => .invalidInput
  | .notUtf8 => .invalidData
  | .described kind _ => kind

def IoCause.message : IoCause → String
  | .notFound => "No such file or directory (os error 2)"
  | .notADirectory => "Not a directory (os error 20)"
  | .isADirectory => "Is a directory (os error 21)"
  | .alreadyExists => "File exists (os error 17)"
  | .nameTooLong => "File name too long (os error 36)"
  | .tooManyLinks => "Too many levels of symbolic links (os error 40)"
  | .nulInName => "file name contained an unexpected NUL byte"
  | .notUtf8 => "stream did not contain valid UTF-8"
  | .described _ text => text

inductive Failure where
  | io (path : Path) (cause : IoCause)
  /-- The text is no JSON, or, where no artifact is named, not of the right shape. -/
  | json (fault : Json.Fault)
  | malformedArtifact (path : Path) (mismatch : Json.Mismatch)
  | signatureCollision (contract signature : String)
  | shadowedImport (contract name : String)
  | invalidContractName (stem : String)
  | duplicateOutput (path : Path)
  | inconsistent (path : Path)
  | missingFileName (path : Path)

def Failure.message : Failure → String
  | .io path cause => "\"" ++ path.text ++ "\": " ++ cause.message
  | .json .malformed => ""
  | .json (.mismatch m) => m.message
  | .malformedArtifact path m => "malformed ABI in \"" ++ path.text ++ "\": " ++ m.message
  | .signatureCollision contract signature =>
    "contract `" ++ contract ++ "` declares `" ++ signature ++ "` more than once"
  | .shadowedImport contract name =>
    "`" ++ name ++ "` in contract `" ++ contract ++
      "` has the name of an imported type, please rename it"
  | .invalidContractName stem =>
    "can't derive a contract name from \"" ++ stem ++ "\", please rename the file"
  | .duplicateOutput path => "multiple artifacts would generate \"" ++ path.text ++ "\""
  | .inconsistent path => "generated file \"" ++ path.text ++ "\" is missing or out of date"
  | .missingFileName path => "missing file name in " ++ path.text

end ContractTypings
