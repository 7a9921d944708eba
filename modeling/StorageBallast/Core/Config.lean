import StorageBallast.Foundations.Paths

/-! The part of the program's configuration that its scans are built from. -/

namespace StorageBallast

inductive ScannerEngineMode where
  | v1
  | v2
deriving DecidableEq, Repr

def ScannerEngineMode.opaquePruning : ScannerEngineMode → Bool
  | v1 => false
  | v2 => true

structure ScannerConfig where
  engine : ScannerEngineMode
  rootPaths : List PathBuf
  excludedPaths : List PathBuf
  protectedPaths : List String
  minFileAgeMinutes : Nat
  maxDepth : Nat
  followSymlinks : Bool
  crossDevices : Bool
  maxDeleteBatch : Nat
  activeReferenceMinSizeBytes : Nat
deriving DecidableEq, Repr

def ScannerConfig.default : ScannerConfig where
  engine := .v2
  rootPaths := [⟨"/tmp"⟩, ⟨"/data/tmp"⟩, ⟨"/var/tmp"⟩]
  excludedPaths :=
    [⟨"/"⟩, ⟨"/boot"⟩, ⟨"/etc"⟩, ⟨"/usr"⟩, ⟨"/bin"⟩, ⟨"/sbin"⟩, ⟨"/proc"⟩, ⟨"/sys"⟩,
      ⟨"/var/log"⟩]
  protectedPaths := []
  minFileAgeMinutes := 5
  maxDepth := 10
  followSymlinks := false
  crossDevices := false
  maxDeleteBatch := 20
  activeReferenceMinSizeBytes := 100 * 1024 * 1024

end StorageBallast
