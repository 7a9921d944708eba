import Mathlib.Tactic.Common
import StorageBallast.Foundations.PathPieces

/-! Trees of files addressed by their canonical locations, with symbolic links anywhere, and
the location a path really leads to when every link on the way is followed, however many.
-/

namespace StorageBallast

inductive PathStep where
  | blank
  | dot
  | dots
  | name (name : FileName)
deriving DecidableEq

def PathStep.isName : PathStep → Bool
  | .name _ => true
  | .blank | .dot | .dots => false

def PathStep.ofPiece (piece : List Char) : PathStep :=
  match FileName.ofText (String.ofList piece) with
  | some entry => .name entry
  | none => if piece = [] then .blank else if piece = ['.'] then .dot else .dots

def PathBuf.steps (path : PathBuf) : List PathStep :=
  (if path.isAbsolute then (splitSlashes path.text.toList).tail
    else splitSlashes path.text.toList).map PathStep.ofPiece

inductive LinkedNode where
  | directory (searchable : Bool)
  | symlink (target : PathBuf)
  /-- A file, or anything else that leads nowhere. -/
  | other
deriving DecidableEq

structure LinkedTree where
  node : Location → Option LinkedNode
  root : ∃ searchable, node .root = some (.directory searchable)

namespace LinkedTree

variable (tree : LinkedTree)

def IsDirectory (here : Location) : Prop :=
  ∃ searchable, tree.node here = some (.directory searchable)

def Searchable (here : Location) : Prop := tree.node here = some (.directory true)

def Solid (here : Location) : Prop :=
  ∃ node, tree.node here = some node ∧ ∀ target, node ≠ .symlink target

/-- Where steps lead from a location. The steps of a link's target come first, and then those
that are left.
-/
inductive Leads : Location → List PathStep → Location → Prop
  | done (here : Location) : Leads here [] here
  | blank {here there : Location} {steps : List PathStep} (directory : tree.IsDirectory here)
      (rest : Leads here steps there) : Leads here (.blank :: steps) there
  | dot {here there : Location} {steps : List PathStep} (searchable : tree.Searchable here)
      (rest : Leads here steps there) : Leads here (.dot :: steps) there
  | dots {here there : Location} {steps : List PathStep} (searchable : tree.Searchable here)
      (rest : Leads ⟨here.names.dropLast⟩ steps there) : Leads here (.dots :: steps) there
  | name {here there : Location} {name : FileName} {steps : List PathStep}
      (searchable : tree.Searchable here) (solid : tree.Solid (here.descend [name]))
      (rest : Leads (here.descend [name]) steps there) : Leads here (.name name :: steps) there
  | link {here there : Location} {name : FileName} {target : PathBuf} {steps : List PathStep}
      (searchable : tree.Searchable here)
      (found : tree.node (here.descend [name]) = some (.symlink target))
      (named : target.text ≠ "")
      (rest : Leads (if target.isAbsolute then .root else here) (target.steps ++ steps) there)
      : Leads here (.name name :: steps) there

variable {tree} {steps : List PathStep}

/-- Steps lead to one place, by induction on the first way there. -/
theorem Leads.unique {here there other : Location}
    (first : tree.Leads here steps there) (second : tree.Leads here steps other)
    : there = other := by
  induction first with
  | done => cases second; rfl
  | blank _ _ ih =>
      cases second with
      | blank _ rest => exact ih rest
  | dot _ _ ih =>
      cases second with
      | dot _ rest => exact ih rest
  | dots _ _ ih =>
      cases second with
      | dots _ rest => exact ih rest
  | name _ solid _ ih =>
      cases second with
      | name _ _ rest => exact ih rest
      | link _ found _ _ =>
          obtain ⟨node, same, plain⟩ := solid
          rw [same] at found
          exact absurd (Option.some.inj found) (plain _)
  | link _ found _ _ ih =>
      cases second with
      | name _ solid _ =>
          obtain ⟨node, same, plain⟩ := solid
          rw [same] at found
          exact absurd (Option.some.inj found) (plain _)
      | link _ other _ rest =>
          rw [found] at other
          obtain rfl := LinkedNode.symlink.inj (Option.some.inj other)
          exact ih rest

/-- A way ends where its back leads from where its front does. -/
theorem leads_append {here there : Location} {front back : List PathStep}
    : tree.Leads here (front ++ back) there
      ↔ ∃ middle, tree.Leads here front middle ∧ tree.Leads middle back there := by
  constructor
  · intro leads
    generalize same : front ++ back = steps at leads
    induction leads generalizing front with
    | done here =>
        obtain ⟨rfl, rfl⟩ := List.append_eq_nil_iff.mp same
        exact ⟨here, .done here, .done here⟩
    | @blank here there steps directory rest ih =>
        rcases List.append_eq_cons_iff.mp same with ⟨rfl, rfl⟩ | ⟨later, rfl, rfl⟩
        · exact ⟨here, .done here, .blank directory rest⟩
        · obtain ⟨middle, leads, behind⟩ := ih rfl
          exact ⟨middle, .blank directory leads, behind⟩
    | @dot here there steps searchable rest ih =>
        rcases List.append_eq_cons_iff.mp same with ⟨rfl, rfl⟩ | ⟨later, rfl, rfl⟩
        · exact ⟨here, .done here, .dot searchable rest⟩
        · obtain ⟨middle, leads, behind⟩ := ih rfl
          exact ⟨middle, .dot searchable leads, behind⟩
    | @dots here there steps searchable rest ih =>
        rcases List.append_eq_cons_iff.mp same with ⟨rfl, rfl⟩ | ⟨later, rfl, rfl⟩
        · exact ⟨here, .done here, .dots searchable rest⟩
        · obtain ⟨middle, leads, behind⟩ := ih rfl
          exact ⟨middle, .dots searchable leads, behind⟩
    | @name here there name steps searchable solid rest ih =>
        rcases List.append_eq_cons_iff.mp same with ⟨rfl, rfl⟩ | ⟨later, rfl, rfl⟩
        · exact ⟨here, .done here, .name searchable solid rest⟩
        · obtain ⟨middle, leads, behind⟩ := ih rfl
          exact ⟨middle, .name searchable solid leads, behind⟩
    | @link here there name target steps searchable found named rest ih =>
        rcases List.append_eq_cons_iff.mp same with ⟨rfl, rfl⟩ | ⟨later, rfl, rfl⟩
        · exact ⟨here, .done here, .link searchable found named rest⟩
        · obtain ⟨middle, leads, behind⟩ := ih (List.append_assoc ..)
          exact ⟨middle, .link searchable found named leads, behind⟩
  · rintro ⟨middle, leads, behind⟩
    induction leads with
    | done => exact behind
    | blank directory _ ih => exact .blank directory (ih behind)
    | dot searchable _ ih => exact .dot searchable (ih behind)
    | dots searchable _ ih => exact .dots searchable (ih behind)
    | name searchable solid _ ih => exact .name searchable solid (ih behind)
    | link searchable found named _ ih =>
        have whole := ih behind
        rw [List.append_assoc] at whole
        exact .link searchable found named whole

theorem leads_cons {here there : Location} {step : PathStep}
    : tree.Leads here (step :: steps) there
      ↔ ∃ middle, tree.Leads here [step] middle ∧ tree.Leads middle steps there :=
  @leads_append tree here there [step] steps

def Plain (tree : LinkedTree) (here : Location) : Prop :=
  ∀ front name back, here.names = front ++ name :: back →
    tree.Searchable ⟨front⟩ ∧ tree.Solid ⟨front ++ [name]⟩

theorem plain_root (tree : LinkedTree) : tree.Plain .root := by
  intro front name back same
  exact absurd same.symm (List.append_ne_nil_of_right_ne_nil _ (List.cons_ne_nil _ _))

theorem Plain.up {here : Location} (plain : tree.Plain here)
    : tree.Plain ⟨here.names.dropLast⟩ := by
  intro front name back same
  cases whole : here.names using List.reverseRecOn with
  | nil =>
      rw [whole] at same
      exact absurd same.symm (List.append_ne_nil_of_right_ne_nil _ (List.cons_ne_nil _ _))
  | append_singleton above last =>
      rw [whole, List.dropLast_concat] at same
      have joined : above = front ++ name :: back := same
      exact plain front name (back ++ [last]) (by rw [whole, joined]; simp)

theorem Plain.down {here : Location} {name : FileName} (plain : tree.Plain here)
    (searchable : tree.Searchable here) (solid : tree.Solid (here.descend [name]))
    : tree.Plain (here.descend [name]) := by
  intro front other back same
  cases back using List.reverseRecOn with
  | nil =>
      obtain ⟨rfl, last⟩ := List.append_inj' same rfl
      obtain rfl := (List.cons.inj last).1
      exact ⟨searchable, solid⟩
  | append_singleton back last =>
      rw [← List.cons_append, ← List.append_assoc] at same
      exact plain front other back (List.append_inj' same rfl).1

theorem Leads.plain {here there : Location}
    (leads : tree.Leads here steps there) (plain : tree.Plain here) : tree.Plain there := by
  induction leads with
  | done => exact plain
  | blank _ _ ih => exact ih plain
  | dot _ _ ih => exact ih plain
  | dots _ _ ih => exact ih plain.up
  | name searchable solid _ ih => exact ih (plain.down searchable solid)
  | link _ _ _ _ ih =>
      apply ih
      split
      · exact plain_root tree
      · exact plain

theorem Plain.leads {here : Location} (plain : tree.Plain here)
    : tree.Leads .root (here.names.map .name) here := by
  obtain ⟨names⟩ := here
  induction names using List.reverseRecOn with
  | nil => exact .done _
  | append_singleton above last ih =>
      obtain ⟨searchable, solid⟩ := plain above last [] rfl
      have whole := ih (by simpa using plain.up)
      rw [List.map_append]
      exact leads_append.mpr ⟨_, whole, .name searchable solid (.done _)⟩

/-- Without `..`, names alone lead as far. -/
theorem Leads.names {here there : Location}
    (leads : tree.Leads here steps there) (downward : .dots ∉ steps)
    : tree.Leads here (steps.filter PathStep.isName) there := by
  induction steps generalizing here with
  | nil => exact leads
  | cons step steps ih =>
      obtain ⟨middle, first, rest⟩ := leads_cons.mp leads
      have later := ih rest (fun member => downward (List.mem_cons_of_mem _ member))
      cases step with
      | name name => exact leads_cons.mpr ⟨middle, first, later⟩
      | dots => exact absurd List.mem_cons_self downward
      | blank =>
          cases first with
          | blank _ stay => cases stay; exact later
      | dot =>
          cases first with
          | dot _ stay => cases stay; exact later

/-- A piece names nothing, goes up, or is the name of an entry, in both readings. -/
theorem step_of_piece {piece : List Char} (whole : '/' ∉ piece)
    : (PathBuf.pieceComponent piece = none ∧ (PathStep.ofPiece piece).isName = false
        ∧ PathStep.ofPiece piece ≠ .dots)
      ∨ (PathBuf.pieceComponent piece = some .parentDir ∧ PathStep.ofPiece piece = .dots)
      ∨ ∃ name : FileName, PathBuf.pieceComponent piece = some (.normal name.text)
        ∧ PathStep.ofPiece piece = .name name := by
  by_cases blank : piece = []
  · subst blank
    exact .inl (by decide)
  by_cases dot : piece = ['.']
  · subst dot
    exact .inl (by decide)
  have named : ¬ (piece = [] ∨ piece = ['.']) := not_or.mpr ⟨blank, dot⟩
  by_cases dots : piece = ['.', '.']
  · subst dots
    exact .inr (.inl (by decide))
  · have texts (text : String) (other : piece ≠ text.toList) : String.ofList piece ≠ text :=
      fun equal => other (by rw [← equal, String.toList_ofList])
    have valid : isFileName (String.ofList piece) = true := by
      have blank' := texts "" blank
      have dot' := texts "." dot
      have dots' := texts ".." dots
      simp [isFileName, blank', dot', dots', whole]
    refine .inr (.inr ⟨⟨String.ofList piece, valid⟩, ?_, ?_⟩)
    · rw [PathBuf.pieceComponent, if_neg named, if_neg dots]
    · rw [PathStep.ofPiece, FileName.ofText, dif_pos valid]

/-- The names among the steps are those among the components. -/
theorem names_of_pieces {pieces : List (List Char)} (whole : ∀ piece ∈ pieces, '/' ∉ piece)
    (downward : .parentDir ∉ pieces.filterMap PathBuf.pieceComponent)
    : (pieces.map PathStep.ofPiece).filter PathStep.isName
        = ((pieces.filterMap PathBuf.pieceComponent).filterMap fun component =>
            match component with
            | .normal name => FileName.ofText name
            | .rootDir | .curDir | .parentDir => none).map .name
      ∧ .dots ∉ pieces.map PathStep.ofPiece := by
  induction pieces with
  | nil => exact ⟨rfl, List.not_mem_nil⟩
  | cons piece pieces ih =>
      have later := ih fun other member => whole other (List.mem_cons_of_mem _ member)
      rcases step_of_piece (whole piece List.mem_cons_self)
        with ⟨unnamed, nameless, down⟩ | ⟨up, -⟩ | ⟨name, named, step⟩
      · rw [List.filterMap_cons, unnamed] at downward ⊢
        obtain ⟨names, rest⟩ := later downward
        rw [List.map_cons, List.filter_cons, nameless]
        refine ⟨names, ?_⟩
        rw [List.mem_cons]
        exact not_or.mpr ⟨Ne.symm down, rest⟩
      · rw [List.filterMap_cons, up] at downward
        exact absurd List.mem_cons_self downward
      · rw [List.filterMap_cons, named] at downward ⊢
        obtain ⟨names, rest⟩ := later fun member => downward (List.mem_cons_of_mem _ member)
        have valid : FileName.ofText name.text = some name := by
          rw [FileName.ofText, dif_pos name.valid]
        rw [List.map_cons, List.filter_cons, step]
        simp only [PathStep.isName, if_true, List.filterMap_cons, valid, List.map_cons, names]
        refine ⟨trivial, ?_⟩
        rw [List.mem_cons]
        exact not_or.mpr ⟨PathStep.noConfusion, rest⟩

/-- Steps of an absolute path that never goes up: what they lead to, its names lead to. -/
theorem leads_ofNames {path : PathBuf} {there : Location} (absolute : path.isAbsolute = true)
    (downward : .parentDir ∉ path.components) (leads : tree.Leads .root path.steps there)
    : tree.Leads .root ((Location.ofNames path).names.map .name) there := by
  cases split : PathBuf.splitSlashes path.text.toList with
  | nil => exact absurd split (PathBuf.splitSlashes_ne_nil _)
  | cons first rest =>
      have rooted := (PathBuf.isAbsolute_of_pieces split).mp absolute
      have components : path.components
          = .rootDir :: rest.filterMap PathBuf.pieceComponent := by
        rw [PathBuf.components_of_pieces split, PathBuf.opening, if_pos rooted, rooted.1]
        rfl
      have steps : path.steps = rest.map PathStep.ofPiece := by
        rw [PathBuf.steps, if_pos absolute, split, List.tail_cons]
      rw [components] at downward
      obtain ⟨names, level⟩ := names_of_pieces
        (fun piece member => PathBuf.whole_of_mem_splitSlashes
          (split ▸ List.mem_cons_of_mem _ member))
        (fun member => downward (List.mem_cons_of_mem _ member))
      have same : path.steps.filter PathStep.isName
          = (Location.ofNames path).names.map .name := by
        rw [steps, names, Location.ofNames, components]
        rfl
      rw [← same]
      exact leads.names (steps ▸ level)

theorem isAbsolute_toPathBuf (location : Location) : location.toPathBuf.isAbsolute = true := by
  rw [PathBuf.isAbsolute_iff, Location.components_toPathBuf]
  rfl

theorem steps_toPathBuf {names : List FileName} (nonempty : names ≠ [])
    : (Location.mk names).toPathBuf.steps = names.map .name := by
  have steps (name : FileName) : PathStep.ofPiece name.text.toList = .name name := by
    rw [PathStep.ofPiece, String.ofList_toList, FileName.ofText, dif_pos name.valid]
  rw [PathBuf.steps, if_pos (isAbsolute_toPathBuf _), Location.splitSlashes_toPathBuf nonempty,
    List.tail_cons, List.map_map]
  simp only [Function.comp_def, steps]

theorem leads_toPathBuf {location there : Location}
    : tree.Leads .root location.toPathBuf.steps there
      ↔ tree.Leads .root (location.names.map .name) there := by
  obtain ⟨names⟩ := location
  by_cases root : names = []
  · subst root
    have blank : (Location.mk []).toPathBuf.steps = [.blank] := by decide
    rw [blank]
    constructor
    · intro leads
      cases leads with
      | blank _ rest => exact rest
    · exact fun leads => .blank tree.root leads
  · rw [steps_toPathBuf root]

def start (workingDir : Option Location) (path : PathBuf) : Option Location :=
  if path.isAbsolute then some .root else workingDir

def RealPath (tree : LinkedTree) (workingDir : Option Location) (path : PathBuf)
    (there : Location) : Prop :=
  path.text ≠ "" ∧ ∃ from', start workingDir path = some from'
    ∧ tree.Leads from' path.steps there

def IsLink (tree : LinkedTree) (workingDir : Option Location) (path : PathBuf) : Prop :=
  ∃ front name here target, path.steps = front ++ [.name name]
    ∧ (∃ from', start workingDir path = some from' ∧ tree.Leads from' front here)
    ∧ tree.Searchable here ∧ tree.node (here.descend [name]) = some (.symlink target)

open Classical in
/-- `realpath`, which gives up on no number of links. -/
noncomputable def canonicalize (tree : LinkedTree) (workingDir : Option Location)
    (path : PathBuf) : Option Location :=
  if found : ∃ there, tree.RealPath workingDir path there then some found.choose else none

variable {workingDir : Option Location}

theorem canonicalize_eq_some {path : PathBuf} {there : Location}
    : tree.canonicalize workingDir path = some there
      ↔ tree.RealPath workingDir path there := by
  unfold canonicalize
  constructor
  · intro same
    split_ifs at same with found
    obtain rfl := Option.some.inj same
    exact found.choose_spec
  · intro real
    have found : ∃ there, tree.RealPath workingDir path there := ⟨there, real⟩
    rw [dif_pos found]
    obtain ⟨-, from', started, leads⟩ := found.choose_spec
    obtain ⟨-, other, same, leads'⟩ := real
    rw [started] at same
    obtain rfl := Option.some.inj same
    exact congrArg some (leads.unique leads')

theorem canonicalize_toPathBuf {location there : Location}
    : tree.canonicalize workingDir location.toPathBuf = some there
      ↔ tree.Leads .root (location.names.map .name) there := by
  have absolute := isAbsolute_toPathBuf location
  have nonempty : location.toPathBuf.text ≠ "" := by
    intro empty
    rw [PathBuf.isAbsolute, empty] at absolute
    cases absolute
  rw [canonicalize_eq_some, RealPath, start, if_pos absolute, ← leads_toPathBuf]
  simp [nonempty]

/-- Where names come to: what exists of them is followed, and the rest stands below. -/
inductive Settles (tree : LinkedTree) : List FileName → Location → Prop
  | real {names : List FileName} {there : Location}
      (leads : tree.Leads .root (names.map .name) there) : Settles tree names there
  | missing {names : List FileName} {name : FileName} {there : Location}
      (absent : ¬ ∃ real, tree.Leads .root ((names ++ [name]).map .name) real)
      (above : Settles tree names there) : Settles tree (names ++ [name]) (there.descend [name])

theorem exists_settles (tree : LinkedTree) (names : List FileName)
    : ∃ there, tree.Settles names there := by
  induction names using List.reverseRecOn with
  | nil => exact ⟨.root, .real (.done _)⟩
  | append_singleton names name ih =>
      obtain ⟨there, above⟩ := ih
      by_cases real : ∃ real, tree.Leads .root ((names ++ [name]).map .name) real
      · obtain ⟨real, leads⟩ := real
        exact ⟨real, .real leads⟩
      · exact ⟨_, .missing real above⟩

theorem Settles.unique {names : List FileName} {there other : Location}
    (first : tree.Settles names there) (second : tree.Settles names other) : there = other := by
  induction first generalizing other with
  | real leads =>
      cases second with
      | real leads' => exact leads.unique leads'
      | missing absent _ => exact absurd ⟨_, leads⟩ absent
  | @missing names name there absent above ih =>
      generalize same : names ++ [name] = longer at second absent
      cases second with
      | real leads => exact absurd ⟨_, leads⟩ absent
      | missing _ above' =>
          obtain ⟨rfl, last⟩ := List.append_inj' same rfl
          obtain rfl := (List.cons.inj last).1
          rw [ih above']

/-- One name further down nothing has to be followed if there is no link of that name. -/
theorem Settles.unlinked_child {names : List FileName} {name : FileName} {there : Location}
    (above : tree.Settles names there)
    (unlinked : ¬ tree.IsLink workingDir (there.descend [name]).toPathBuf)
    : tree.Settles (names ++ [name]) (there.descend [name]) := by
  by_cases real : ∃ real, tree.Leads .root ((names ++ [name]).map .name) real
  · obtain ⟨real, leads⟩ := real
    rw [List.map_append] at leads
    obtain ⟨middle, front, last⟩ := leads_append.mp leads
    obtain rfl := above.unique (.real front)
    cases last with
    | name searchable solid rest =>
        cases rest
        apply Settles.real
        rw [List.map_append]
        exact leads
    | link searchable found _ _ =>
        refine absurd ⟨there.names.map .name, name, there, _, ?_, ?_, searchable, found⟩ unlinked
        · have nonempty : there.names ++ [name] ≠ [] :=
            List.append_ne_nil_of_right_ne_nil _ (List.cons_ne_nil _ _)
          rw [Location.descend, steps_toPathBuf nonempty, List.map_append]
          rfl
        · refine ⟨.root, ?_, (front.plain (plain_root tree)).leads⟩
          rw [start, if_pos (isAbsolute_toPathBuf _)]
  · exact .missing real above

theorem Settles.again {names : List FileName} {there : Location}
    (settles : tree.Settles names there)
    : tree.Settles there.names there
      ∧ ∀ real, tree.Leads .root (there.names.map .name) real →
        tree.Leads .root (names.map .name) real := by
  induction settles with
  | real leads =>
      have again := (leads.plain (plain_root tree)).leads
      exact ⟨.real again, fun real other => other.unique again ▸ leads⟩
  | @missing names name there absent above ih =>
      obtain ⟨again, back⟩ := ih
      have none (real : Location)
          : ¬ tree.Leads .root ((there.names ++ [name]).map .name) real := by
        intro leads
        rw [List.map_append] at leads
        obtain ⟨middle, front, last⟩ := leads_append.mp leads
        refine absent ⟨real, ?_⟩
        rw [List.map_append]
        exact leads_append.mpr ⟨middle, back middle front, last⟩
      exact ⟨.missing (fun found => none _ found.choose_spec) again,
        fun real leads => absurd leads (none real)⟩

end LinkedTree

end StorageBallast
