import Mathlib.Data.List.Basic
import Mathlib.Tactic.Common

/-! Unix path texts and their lexical components, as the standard library reads them:
separators repeat freely, `.` components vanish after the first, `..` components stay.
Locations are the canonical absolute paths, for which names and text agree.
-/

namespace StorageBallast

/-- A path as it was spelled. Two spellings of one location are different values here. -/
structure PathBuf where
  text : String
deriving DecidableEq, Repr

inductive Component where
  | rootDir
  | curDir
  | parentDir
  | normal (name : String)
deriving DecidableEq, Repr

namespace PathBuf

/-- Split a text at every separator, keeping empty pieces. -/
def splitSlashes : List Char → List (List Char)
  | [] => [[]]
  | '/' :: rest => [] :: splitSlashes rest
  | c :: rest =>
      match splitSlashes rest with
      | [] => [[c]]
      | piece :: pieces => (c :: piece) :: pieces

def pieceComponent (piece : List Char) : Option Component :=
  if piece = [] ∨ piece = ['.'] then none
  else if piece = ['.', '.'] then some .parentDir
  else some (.normal (String.ofList piece))

def isAbsolute (path : PathBuf) : Bool :=
  path.text.toList.head? == some '/'

/-- `Path::components`: a leading `.` of a relative path is kept, every other one dropped. -/
def components (path : PathBuf) : List Component :=
  let pieces := splitSlashes path.text.toList
  let named := pieces.filterMap pieceComponent
  if path.isAbsolute then .rootDir :: named
  else if pieces.head? = some ['.'] then .curDir :: named
  else named

/-- `Path::file_name`: the last component, if it is a name. -/
def lastName : List Component → Option String
  | [] => none
  | [.normal name] => some name
  | [_] => none
  | _ :: rest => lastName rest

def fileName (path : PathBuf) : Option String := lastName path.components

/-- `Path::ancestors`, by their components: the path, and then always without the last. -/
def ancestors (path : PathBuf) : List (List Component) :=
  (path.components.inits.filter fun components =>
    !path.isAbsolute || !components.isEmpty).reverse

/-- `Path` equality compares components. -/
def sameAs (path other : PathBuf) : Bool := path.components == other.components

/-- `Path::join` with a name. -/
def join (path : PathBuf) (name : String) : PathBuf :=
  if path.text = "" ∨ path.text.toList.getLast? = some '/' then ⟨path.text ++ name⟩
  else ⟨path.text ++ "/" ++ name⟩

def trimPieces (pieces : List (List Char)) : List (List Char) :=
  (pieces.reverse.dropWhile fun piece => piece = [] ∨ piece = ['.']).reverse

/-- `Path::parent`, as the text that is left without the last component. -/
def parent (path : PathBuf) : Option PathBuf :=
  match splitSlashes path.text.toList with
  | [] => none
  | first :: rest =>
      match trimPieces rest with
      | [] => if first = [] then none else some ⟨""⟩
      | body =>
          match first, trimPieces body.dropLast with
          | [], [] => some ⟨"/"⟩
          | _, up => some ⟨String.ofList (List.intercalate ['/'] (first :: up))⟩

end PathBuf

/-- Why a call on a path fails. -/
inductive ReadFault where
  | notFound
  | permissionDenied
  | other (message : String)
deriving DecidableEq, Repr

structure PathError where
  path : PathBuf
  message : String
deriving DecidableEq, Repr

def isFileName (text : String) : Bool :=
  text != "" && text != "." && text != ".." && !text.toList.contains '/'

structure FileName where
  text : String
  valid : isFileName text = true
deriving DecidableEq, Repr

def FileName.ofText (text : String) : Option FileName :=
  if valid : isFileName text = true then some ⟨text, valid⟩ else none

/-- A canonical absolute path: the names from the root down. -/
structure Location where
  names : List FileName
deriving DecidableEq, Repr

namespace Location

def root : Location := ⟨[]⟩

def text (location : Location) : String :=
  match location.names with
  | [] => "/"
  | names => String.join (names.map fun name => "/" ++ name.text)

def toPathBuf (location : Location) : PathBuf := ⟨location.text⟩

def fileName (location : Location) : Option FileName := location.names.getLast?

/-- `Path::parent`: every location but the root has one. -/
def parent (location : Location) : Option Location :=
  if location.names = [] then none else some ⟨location.names.dropLast⟩

/-- `Path::starts_with`: the second location is at or above the first one. -/
def startsWith (location above : Location) : Bool :=
  above.names.isPrefixOf location.names

def descend (location : Location) (names : List FileName) : Location :=
  ⟨location.names ++ names⟩

def StrictlyBelow (location above : Location) : Prop :=
  location.startsWith above = true ∧ location ≠ above

/-- The location a path denotes when no link is followed and no `..` occurs. -/
def ofNames (path : PathBuf) : Location :=
  ⟨path.components.filterMap fun component =>
    match component with
    | .normal name => FileName.ofText name
    | .rootDir | .curDir | .parentDir => none⟩

def properAncestors (location : Location) : List Location :=
  if location.names = [] then []
  else (location.names.dropLast.inits.map Location.mk).reverse

theorem startsWith_iff {location above : Location}
    : location.startsWith above = true ↔ above.names <+: location.names :=
  List.isPrefixOf_iff_prefix

theorem startsWith_self (location : Location) : location.startsWith location = true :=
  startsWith_iff.mpr (List.prefix_refl _)

theorem startsWith_trans {low middle high : Location} (upper : low.startsWith middle = true)
    (lower : middle.startsWith high = true)
    : low.startsWith high = true :=
  startsWith_iff.mpr ((startsWith_iff.mp lower).trans (startsWith_iff.mp upper))

theorem descend_startsWith (location : Location) (names : List FileName)
    : (location.descend names).startsWith location = true :=
  startsWith_iff.mpr (List.prefix_append _ _)

/-- What lies between a directory and something below one of its children is the directory, or
at or below the child.
-/
theorem startsWith_child {path between low : Location} {name : FileName}
    (upper : between.startsWith path = true) (lower : low.startsWith between = true)
    (child : low.startsWith (path.descend [name]) = true)
    : between = path ∨ between.startsWith (path.descend [name]) = true := by
  rw [startsWith_iff] at upper lower child ⊢
  rcases Nat.lt_or_ge path.names.length between.names.length with longer | shorter
  · have fits : (path.descend [name]).names.length ≤ between.names.length := by
      simpa [descend] using Nat.succ_le_of_lt longer
    exact Or.inr (List.prefix_of_prefix_length_le child lower fits)
  · apply Or.inl
    have same := upper.eq_of_length_le shorter
    cases between
    cases path
    exact congrArg Location.mk same.symm

theorem startsWith_antisymm {location other : Location}
    (below : location.startsWith other = true) (above : other.startsWith location = true)
    : location = other := by
  rw [startsWith_iff] at below above
  cases location
  cases other
  exact congrArg Location.mk (above.eq_of_length_le below.length_le)

end Location

end StorageBallast
