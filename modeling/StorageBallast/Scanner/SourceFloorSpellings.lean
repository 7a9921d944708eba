import Mathlib.Data.List.Infix
import StorageBallast.Foundations.PathPieces
import StorageBallast.Scanner.DeletionChecks

/-! The hard-coded source-tree floor against the spellings of a path.
The floor reads the text of a path, while the file system reads its components: a location
under the floor is refused exactly when its guarded front is spelled without detours, or
when `.git` is one of its components.
-/

namespace StorageBallast

open Checks

def PathBuf.Denotes (path : PathBuf) (location : Location) : Prop :=
  path.components = .rootDir :: location.names.map fun name => .normal name.text

instance (path : PathBuf) (location : Location) : Decidable (path.Denotes location) :=
  inferInstanceAs (Decidable (_ = _))

def LeadsToProjects (names : List String) : Prop :=
  ["data", "projects"] <+: names
    ∨ (∃ user, ["home", user, "projects"] <+: names)
    ∨ ∃ user, ["Users", user, "projects"] <+: names

/-- Absolute paths the floor protects, whatever their spelling. -/
def FloorCovers (path : PathBuf) : Prop :=
  path.isAbsolute = true
  ∧ ((∃ location, path.Denotes location
        ∧ LeadsToProjects (location.names.map FileName.text)
        ∧ isObviousBuildArtifactBasename path = false)
    ∨ .normal ".git" ∈ path.components)

/-- The text itself leads to a projects directory: no repeated separator and no `.` stands
in the way.
-/
def SpelledPlainly (path : PathBuf) : Prop :=
  ∃ rest, path.pieces = "" :: rest ∧ LeadsToProjects rest

/-- A text that continues after its first name has a separator there. -/
theorem whole_prefix_splitSlashes {text piece : List Char} {next : List Char}
    {more : List (List Char)} (whole : '/' ∉ piece)
    : piece :: next :: more <+: PathBuf.splitSlashes text
      ↔ ∃ rest, text = piece ++ '/' :: rest ∧ next :: more <+: PathBuf.splitSlashes rest := by
  simp [PathBuf.cons_prefix_splitSlashes, whole]

/-- A text starts with a whole last name when nothing or a separator follows it. -/
theorem last_prefix_splitSlashes {text piece : List Char} (whole : '/' ∉ piece)
    : [piece] <+: PathBuf.splitSlashes text ↔ text = piece ∨ piece ++ ['/'] <+: text := by
  rw [PathBuf.cons_prefix_splitSlashes]
  constructor
  · rintro ⟨_, ⟨same, _⟩ | ⟨rest, rfl, _⟩⟩
    · exact Or.inl same
    · exact Or.inr ⟨rest, by simp⟩
  · rintro (same | ⟨rest, rfl⟩)
    · exact ⟨whole, Or.inl ⟨same, rfl⟩⟩
    · exact ⟨whole, Or.inr ⟨rest, by simp, List.nil_prefix⟩⟩

variable {path : PathBuf}

/-- The two tests for the machine's projects directory ask for its pieces. -/
theorem machineProjects_iff
    : (path.text == "/data/projects" || Texts.startsWith path.text "/data/projects/") = true
      ↔ ["", "data", "projects"] <+: path.pieces := by
  have root : '/' ∉ "".toList := by decide
  have data : '/' ∉ "data".toList := by decide
  have projects : '/' ∉ "projects".toList := by decide
  have directory : "/data/projects".toList
      = '/' :: ("data".toList ++ '/' :: "projects".toList) := by decide
  have below : "/data/projects/".toList
      = '/' :: ("data".toList ++ '/' :: ("projects".toList ++ ['/'])) := by decide
  simp only [PathBuf.prefix_pieces_iff, List.map_cons, List.map_nil,
    whole_prefix_splitSlashes root, whole_prefix_splitSlashes data,
    last_prefix_splitSlashes projects, Bool.or_eq_true, beq_iff_eq, Texts.startsWith_iff,
    ← String.toList_inj, directory, below]
  constructor
  · rintro (same | ⟨tail, same⟩)
    · exact ⟨_, same, _, rfl, Or.inl rfl⟩
    · exact ⟨_, same.symm, _, rfl, Or.inr ⟨tail, by simp⟩⟩
  · rintro ⟨_, text, _, rfl, rfl | ⟨tail, rfl⟩⟩
    · exact Or.inl text
    · exact Or.inr ⟨tail, by simp [text]⟩

/-- A text under a user's projects directory is the root, the user's name, a separator and
then `projects`.
-/
theorem isUnderUserProjects_iff {pathText root : String}
    : isUnderUserProjects pathText root = true
      ↔ ∃ user after, '/' ∉ user ∧ pathText.toList = root.toList ++ (user ++ '/' :: after)
        ∧ (after = "projects".toList ∨ "projects/".toList <+: after) := by
  unfold isUnderUserProjects
  constructor
  · intro under
    split at under
    next => cases under
    next rest stripped =>
      split at under
      next => cases under
      next user after cut =>
        obtain ⟨whole, text⟩ := Texts.splitOnce_eq_some.mp cut
        refine ⟨user, after, whole, ?_, by simpa using under⟩
        rw [Texts.stripPrefix_eq_some.mp stripped, text]
  · rintro ⟨user, after, whole, text, tail⟩
    have stripped : Texts.stripPrefix pathText root
        = some (String.ofList (user ++ '/' :: after)) :=
      Texts.stripPrefix_eq_some.mpr (by simpa using text)
    have cut : Texts.splitOnce '/' (user ++ '/' :: after) = some (user, after) :=
      Texts.splitOnce_eq_some.mpr ⟨whole, rfl⟩
    simp only [stripped, String.toList_ofList, cut]
    simpa using tail

/-- The test for the projects directories of users asks for their pieces. -/
theorem userProjects_iff {root : String} (whole : '/' ∉ root.toList)
    : isUnderUserProjects path.text ("/" ++ root ++ "/") = true
      ↔ ∃ user, ["", root, user, "projects"] <+: path.pieces := by
  have start : '/' ∉ "".toList := by decide
  have projects : '/' ∉ "projects".toList := by decide
  have below : "projects/".toList = "projects".toList ++ ['/'] := by decide
  have above : ("/" ++ root ++ "/").toList = '/' :: (root.toList ++ ['/']) := by
    simp [String.toList_append]
  simp only [PathBuf.prefix_pieces_iff, List.map_cons, List.map_nil,
    whole_prefix_splitSlashes start, whole_prefix_splitSlashes whole, isUnderUserProjects_iff,
    above, below]
  constructor
  · rintro ⟨user, after, userWhole, text, tail⟩
    refine ⟨String.ofList user, _, by simpa using text, _, rfl, ?_⟩
    rw [String.toList_ofList, whole_prefix_splitSlashes userWhole]
    exact ⟨after, rfl, (last_prefix_splitSlashes projects).mpr tail⟩
  · rintro ⟨user, _, text, _, rfl, front⟩
    have userWhole := (PathBuf.cons_prefix_splitSlashes.mp front).1
    obtain ⟨after, rfl, tail⟩ := (whole_prefix_splitSlashes userWhole).mp front
    exact ⟨user.toList, after, userWhole, by simpa using text,
      (last_prefix_splitSlashes projects).mp tail⟩

theorem inProtectedRoot_iff
    : inProtectedRoot path.text = true ↔ SpelledPlainly path := by
  have home : '/' ∉ "home".toList := by decide
  have users : '/' ∉ "Users".toList := by decide
  have texts : inProtectedRoot path.text = true
      ↔ (path.text == "/data/projects" || Texts.startsWith path.text "/data/projects/") = true
        ∨ isUnderUserProjects path.text ("/" ++ "home" ++ "/") = true
        ∨ isUnderUserProjects path.text ("/" ++ "Users" ++ "/") = true := by
    simp [inProtectedRoot, or_assoc]
  rw [texts, machineProjects_iff, userProjects_iff home, userProjects_iff users]
  have below : ∀ names, "" :: names <+: path.pieces
      ↔ ∃ rest, path.pieces = "" :: rest ∧ names <+: rest :=
    fun _ => List.cons_prefix_iff
  simp only [SpelledPlainly, LeadsToProjects, below, and_or_left, exists_or]
  grind

/-- Only the last component decides the last name, by induction on those in front. -/
theorem lastName_concat (front : List Component) (last : Component)
    : PathBuf.lastName (front ++ [last]) = PathBuf.lastName [last] := by
  induction front with
  | nil => rfl
  | cons first rest ih =>
      have more : rest ++ [last] ≠ [] := by simp
      rw [← ih, List.cons_append]
      cases first <;> rw [PathBuf.lastName] <;> simp

theorem lastName_eq_some {components : List Component} {name : String}
    : PathBuf.lastName components = some name
      ↔ ∃ front, components = front ++ [.normal name] := by
  rcases List.eq_nil_or_concat components with rfl | ⟨front, last, rfl⟩
  · simp [PathBuf.lastName]
  · rw [List.concat_eq_append, lastName_concat]
    cases last <;> simp [PathBuf.lastName]

/-- `.git` among the components of an absolute path is the name of the path or of one of
its ancestors.
-/
theorem hasGitAncestor_iff
    : hasGitAncestor path = true ↔ .normal ".git" ∈ path.components := by
  simp only [hasGitAncestor, PathBuf.ancestors, List.any_reverse, List.any_filter,
    List.any_eq_true, List.mem_inits, Bool.and_eq_true, beq_iff_eq, lastName_eq_some]
  constructor
  · rintro ⟨_, ⟨back, whole⟩, _, front, rfl⟩
    simp [← whole]
  · intro member
    obtain ⟨front, back, whole⟩ := List.append_of_mem member
    exact ⟨front ++ [.normal ".git"], ⟨back, by simp [whole]⟩, by simp, front, rfl⟩

theorem observeEntry_ne_hardcoded (world : FileWorld) (path : PathBuf)
    : observeEntry world path ≠ .error .hardcodedSourceTree := by
  unfold observeEntry
  split <;> simp

theorem verifyCandidateIdentity_ne_hardcoded {F : Type} (config : DeletionConfig F)
    (world : FileWorld) (candidate : CandidacyScore F)
    : verifyCandidateIdentity config world candidate ≠ .error .hardcodedSourceTree := by
  fun_cases verifyCandidateIdentity <;> simp

/-- The check before deletion names the floor exactly for the paths under it. -/
theorem preflightCheck_hardcoded_iff {F : Type} {config : DeletionConfig F}
    {worlds : CandidateCall → FileWorld} {candidate : CandidacyScore F}
    {openPaths : Option (List PathBuf)}
    : preflightCheck config worlds candidate openPaths = .error .hardcodedSourceTree
      ↔ isHardcodedSourceTree candidate.path = true := by
  simp [preflightCheck, bind_eq_error, observeEntry_ne_hardcoded,
    verifyCandidateIdentity_ne_hardcoded]

/-- Which spellings of a protected location the check before deletion refuses, whatever
the configuration, the file system and the candidate.
-/
theorem preflightCheck_refuses_spelling_iff {F : Type} (config : DeletionConfig F)
    (worlds : CandidateCall → FileWorld) (candidate : CandidacyScore F)
    (openPaths : Option (List PathBuf)) (covered : FloorCovers candidate.path)
    : preflightCheck config worlds candidate openPaths = .error .hardcodedSourceTree
      ↔ .normal ".git" ∈ candidate.path.components ∨ SpelledPlainly candidate.path := by
  rw [preflightCheck_hardcoded_iff, isHardcodedSourceTree, Bool.or_eq_true, Bool.and_eq_true,
    Bool.not_eq_true', inProtectedRoot_iff, hasGitAncestor_iff]
  obtain ⟨_, ⟨_, _, _, unknown⟩ | git⟩ := covered
  · simp [unknown, or_comm]
  · simp [git]

def projectFoo : Location := ⟨["data", "projects", "foo"].filterMap FileName.ofText⟩

theorem preflightCheck_refuses_plainProject
    : preflightCheck DeletionConfig.default (fun _ => emptyDirectories)
        (candidateAt "/data/projects/foo") none = .error .hardcodedSourceTree := by
  have covered : FloorCovers (candidateAt "/data/projects/foo").path :=
    ⟨by decide, Or.inl ⟨projectFoo, by decide, Or.inl (by decide), by decide⟩⟩
  refine (preflightCheck_refuses_spelling_iff _ _ _ _ covered).mpr (Or.inr ?_)
  exact ⟨["data", "projects", "foo"], by decide, Or.inl (by decide)⟩

/-- A repeated separator in front of `projects` takes a project from under the floor, and
nothing else keeps it from being deleted.
-/
theorem preflightCheck_passes_respelledProject
    : FloorCovers (candidateAt "/data//projects/foo").path
      ∧ preflightCheck { DeletionConfig.default with requireIdentity := true }
          (fun _ => emptyDirectories) (candidateAt "/data//projects/foo") (some [])
        = .ok () := by
  refine ⟨⟨by decide, Or.inl ⟨projectFoo, by decide, Or.inl (by decide), by decide⟩⟩, ?_⟩
  rfl

end StorageBallast
