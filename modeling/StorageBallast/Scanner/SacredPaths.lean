import StorageBallast.Foundations.Globs
import StorageBallast.Foundations.Paths
import StorageBallast.Foundations.Texts

/-! Sacred paths, and the direct ways a cleanup candidate can overlap one: by being it, by
lying below it, or by lying above the directory its pattern starts from.
-/

namespace StorageBallast

inductive SacredPathKind where
  | exactMatch
  | globMatch
  | containsAny
  | stowawayMarker
deriving DecidableEq, Repr

inductive SacredPathSource where
  | builtin
  | userConfig
  | marker
deriving DecidableEq, Repr

structure SacredPath where
  pattern : String
  kind : SacredPathKind
  reason : String
  source : SacredPathSource
deriving DecidableEq, Repr

inductive SacredOverlapKind where
  | exactMatch
  | globMatch
  | childOfSacred
  | parentOfSacred
  | containsSacred
deriving DecidableEq, Repr

def SacredOverlapKind.label : SacredOverlapKind → String
  | exactMatch => "exact sacred path"
  | globMatch => "sacred glob match"
  | childOfSacred => "inside sacred path"
  | parentOfSacred => "contains sacred path"
  | containsSacred => "contains sacred marker"

structure SacredOverlap where
  candidatePath : Location
  matchedPath : Location
  pattern : String
  kind : SacredOverlapKind
  source : SacredPathSource
  reason : String
deriving DecidableEq, Repr

/-- What path resolution and pattern expansion take from the process environment: absolute
paths are resolved to the canonical location they denote, and `~` stands for the home.
-/
structure PathEnv where
  resolveAbsolutePath : PathBuf → Location
  home : Option String

def containsGlobMetachar (pattern : String) : Bool :=
  Texts.contains pattern "*" || Texts.contains pattern "?"

/-- The first of each run of equal trimmed patterns, blanks dropped. -/
def distinctPatterns (seen : List String) : List String → List String
  | [] => []
  | pattern :: rest =>
      let pattern := Texts.trim pattern
      if pattern = "" ∨ pattern ∈ seen then distinctPatterns seen rest
      else pattern :: distinctPatterns (pattern :: seen) rest

def userSacredPath (pattern : String) : SacredPath where
  pattern
  kind := if containsGlobMetachar pattern then .globMatch else .exactMatch
  reason := "User-configured protected path must never be reclaimed."
  source := .userConfig

def sacredPathsFromProtectedPatterns (patterns : List String) : List SacredPath :=
  (distinctPatterns [] patterns).map userSacredPath

def globToRegex (pattern : String) : List Globs.Piece :=
  Globs.parse (Texts.slashed pattern).toList

def isMatch (regex : List Globs.Piece) (text : String) : Bool :=
  Globs.matchesPieces regex text.toList

def normalizePathForMatching (path : Location) : String :=
  Texts.slashed path.text

def expandHomePattern (env : PathEnv) (pattern : String) : String :=
  match env.home with
  | none => pattern
  | some home =>
      let home := Texts.slashed home
      if pattern = "~" then home
      else
        match Texts.stripPrefix pattern "~/" with
        | some rest => home ++ "/" ++ rest
        | none => pattern

def beforeWildcard (pattern : String) : Option (List Char) :=
  if containsGlobMetachar pattern then
    some (pattern.toList.takeWhile fun c => c != '*' && c != '?')
  else none

def beforeLastSlash (text : List Char) : List Char :=
  (text.reverse.dropWhile (· != '/')).tail.reverse

/-- The directory a glob starts from: the last one named before the first wildcard. -/
def literalGlobPrefixPath (pattern : String) : Option PathBuf :=
  match beforeWildcard pattern with
  | none => none
  | some literal =>
      match beforeLastSlash literal with
      | [] => none
      | parent => some ⟨String.ofList parent⟩

def normalizeProtectedPatternForMatching (env : PathEnv) (pattern : String) : String :=
  let normalized := Texts.slashed (expandHomePattern env pattern)
  let path : PathBuf := ⟨normalized⟩
  if !path.isAbsolute then normalized
  else if !containsGlobMetachar normalized then
    normalizePathForMatching (env.resolveAbsolutePath path)
  else
    match literalGlobPrefixPath normalized with
    | none => normalized
    | some start =>
        match Texts.stripPrefix normalized start.text with
        | none => normalized
        | some suffix =>
            normalizePathForMatching (env.resolveAbsolutePath start) ++ suffix

def pathOverlapKind (candidate sacredPath : Location) : Option SacredOverlapKind :=
  if candidate = sacredPath then some .exactMatch
  else if candidate.startsWith sacredPath then some .childOfSacred
  else if sacredPath.startsWith candidate then some .parentOfSacred
  else none

def overlapAt (candidate : Location) (entry : SacredPath) (kind : SacredOverlapKind)
    (matchedPath : Location) : SacredOverlap where
  candidatePath := candidate
  matchedPath
  pattern := entry.pattern
  kind
  source := entry.source
  reason := entry.reason

def exactSacredOverlaps (env : PathEnv) (candidate : Location) (entry : SacredPath)
    : List SacredOverlap :=
  let sacredPath := env.resolveAbsolutePath ⟨expandHomePattern env entry.pattern⟩
  match pathOverlapKind candidate sacredPath with
  | none => []
  | some kind => [overlapAt candidate entry kind sacredPath]

def entryRegex (env : PathEnv) (entry : SacredPath) : List Globs.Piece :=
  globToRegex (normalizeProtectedPatternForMatching env entry.pattern)

def globMatches (env : PathEnv) (entry : SacredPath) (path : Location) : Bool :=
  isMatch (entryRegex env entry) (normalizePathForMatching path)

def sacredParent (env : PathEnv) (entry : SacredPath) : Option Location :=
  (literalGlobPrefixPath (normalizeProtectedPatternForMatching env entry.pattern)).map
    env.resolveAbsolutePath

def overlapItself (env : PathEnv) (candidate : Location) (entry : SacredPath)
    : List SacredOverlap :=
  if globMatches env entry candidate then [overlapAt candidate entry .globMatch candidate]
  else []

def overlapInside (env : PathEnv) (candidate : Location) (entry : SacredPath)
    : List SacredOverlap :=
  match candidate.properAncestors.find? (globMatches env entry) with
  | some ancestor => [overlapAt candidate entry .childOfSacred ancestor]
  | none => []

/-- The candidate is at or above the location the glob starts from. -/
def overlapAround (env : PathEnv) (candidate : Location) (entry : SacredPath)
    : List SacredOverlap :=
  match sacredParent env entry with
  | some parent =>
      if parent.startsWith candidate then
        [overlapAt candidate entry .parentOfSacred parent]
      else []
  | none => []

def globSacredOverlaps (env : PathEnv) (candidate : Location) (entry : SacredPath)
    : List SacredOverlap :=
  overlapItself env candidate entry ++ overlapInside env candidate entry
    ++ overlapAround env candidate entry

def directSacredOverlaps (env : PathEnv) (candidate : Location) (entry : SacredPath)
    : List SacredOverlap :=
  match entry.kind with
  | .exactMatch => exactSacredOverlaps env candidate entry
  | .globMatch => globSacredOverlaps env candidate entry
  | .containsAny | .stowawayMarker => []

end StorageBallast
