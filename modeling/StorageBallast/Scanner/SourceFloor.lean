import StorageBallast.Foundations.Paths
import StorageBallast.Foundations.Texts

/-! The hard-coded floor under deletion: source trees at well-known locations are refused
unless the basename is an obvious build artifact, and Git metadata always is.
-/

namespace StorageBallast

/-- A name that ends in `-target` or `_target` after a descriptive part. -/
def hasDescriptiveTargetSuffix (name : String) : Bool :=
  ((Texts.stripSuffix name "-target").orElse fun _ => Texts.stripSuffix name "_target").any
    (· != "")

def exactArtifacts : List String :=
  [".cargo-target", ".next", ".nuxt", ".parcel-cache", ".pytest_cache", ".rch-target",
    ".rch_target", ".target", ".tox", ".turbo", ".venv", "__pycache__", "build", "dist",
    "node_modules", "rch-target", "rch_target", "target", "venv"]

def artifactPrefixes : List String :=
  ["target-", "target_", ".rch-target-", ".rch_target_", "rch-target-", "rch_target_",
    ".cargo-target-"]

def isObviousBuildArtifactName (name : String) : Bool :=
  exactArtifacts.contains name
    || artifactPrefixes.any (Texts.startsWith name)
    || hasDescriptiveTargetSuffix name

def isObviousBuildArtifactBasename (path : PathBuf) : Bool :=
  path.fileName.any isObviousBuildArtifactName

/-- The text after a root and a user name starts with `projects`. -/
def isUnderUserProjects (pathText root : String) : Bool :=
  match Texts.stripPrefix pathText root with
  | none => false
  | some rest =>
      match Texts.splitOnce '/' rest.toList with
      | none => false
      | some (_, afterUser) =>
          afterUser == "projects".toList || "projects/".toList.isPrefixOf afterUser

def inProtectedRoot (pathText : String) : Bool :=
  pathText == "/data/projects"
    || Texts.startsWith pathText "/data/projects/"
    || isUnderUserProjects pathText "/home/"
    || isUnderUserProjects pathText "/Users/"

/-- The path or one of its ancestors is named `.git`. -/
def hasGitAncestor (path : PathBuf) : Bool :=
  path.ancestors.any fun components => PathBuf.lastName components == some ".git"

def isHardcodedSourceTree (path : PathBuf) : Bool :=
  (inProtectedRoot path.text && !isObviousBuildArtifactBasename path) || hasGitAncestor path

end StorageBallast
