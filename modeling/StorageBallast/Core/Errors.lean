import StorageBallast.Foundations.Paths

/-! Errors of the program, with their codes and texts. -/

namespace StorageBallast

inductive IoErrorKind where
  | notFound
  | permissionDenied
  | other
deriving DecidableEq, Repr

structure IoError where
  kind : IoErrorKind
  text : String
deriving DecidableEq, Repr

inductive SbhError where
  | invalidConfig (details : String)
  | missingConfig (path : PathBuf)
  | configParse (context details : String)
  | unsupportedPlatform (details : String)
  | pal (source : String)
  | fsStats (path : PathBuf) (details : String)
  | mountParse (details : String)
  | safetyVeto (path : PathBuf) (reason : String)
  | serialization (context details : String)
  | sql (context details : String)
  | permissionDenied (path : PathBuf)
  | io (path : PathBuf) (source : IoError)
  | channelClosed (component : String)
  | runtime (details : String)
deriving DecidableEq, Repr

namespace SbhError

def code : SbhError → String
  | invalidConfig _ => "SBH-1001"
  | missingConfig _ => "SBH-1002"
  | configParse _ _ => "SBH-1003"
  | unsupportedPlatform _ => "SBH-1101"
  | pal _ => "SBH-1102"
  | fsStats _ _ => "SBH-2001"
  | mountParse _ => "SBH-2002"
  | safetyVeto _ _ => "SBH-2003"
  | serialization _ _ => "SBH-2101"
  | sql _ _ => "SBH-2102"
  | permissionDenied _ => "SBH-3001"
  | io _ _ => "SBH-3002"
  | channelClosed _ => "SBH-3003"
  | runtime _ => "SBH-3900"

def message : SbhError → String
  | invalidConfig details => "invalid configuration: " ++ details
  | missingConfig path => "missing configuration file: " ++ path.text
  | configParse context details =>
      "configuration parse failure in " ++ context ++ ": " ++ details
  | unsupportedPlatform details => "unsupported platform: " ++ details
  | pal source => "platform abstraction failure: " ++ source
  | fsStats path details => "filesystem stats failure for " ++ path.text ++ ": " ++ details
  | mountParse details => "mount table parse failure: " ++ details
  | safetyVeto path reason => "safety veto for " ++ path.text ++ ": " ++ reason
  | serialization context details => "serialization failure in " ++ context ++ ": " ++ details
  | sql context details => "SQL failure in " ++ context ++ ": " ++ details
  | permissionDenied path => "permission denied for " ++ path.text
  | io path source => "IO failure at " ++ path.text ++ ": " ++ source.text
  | channelClosed component => "channel closed in component " ++ component
  | runtime details => "runtime failure: " ++ details

def toString (error : SbhError) : String := "[" ++ error.code ++ "] " ++ error.message

def isRetryable : SbhError → Bool
  | io _ _ | channelClosed _ | fsStats _ _ | sql _ _ | runtime _ => true
  | _ => false

end SbhError

def PathError.toSbhError (error : PathError) : SbhError :=
  .io error.path ⟨.other, error.message⟩

end StorageBallast
