import StorageBallast.Scanner.GlobCoverage
import StorageBallast.Scanner.ProtectionRegistry

/-! What the registry of protected paths protects. Both ways to ask agree, whatever lies below a
protected path is protected, no call takes protection away, and discovery finds the markers that
no other marker covers.
-/

namespace StorageBallast

open ProtectionRegistry

namespace ProtectionRegistry

variable {registry : ProtectionRegistry} {env : PathEnv}

def CutOf (text : List Char) (cut : String) : Prop :=
  ∃ front back, text = front ++ '/' :: back
    ∧ cut = if front = [] then "/" else String.ofList front

theorem mem_cutsAtSlashes {front text : List Char} {cut : String}
    : cut ∈ cutsAtSlashes front text
      ↔ ∃ middle back, text = middle ++ '/' :: back
        ∧ cut = if front ++ middle = [] then "/" else String.ofList (front ++ middle) := by
  induction text generalizing front with
  | nil => simp [cutsAtSlashes]
  | cons c rest ih =>
      have later := @ih (front ++ [c])
      simp only [List.append_assoc, List.singleton_append] at later
      constructor
      · intro member
        unfold cutsAtSlashes at member
        split at member
        next sep =>
          rcases List.mem_cons.mp member with rfl | behind
          · exact ⟨[], rest, congrArg (· :: rest) sep, by rw [List.append_nil]⟩
          · obtain ⟨middle, back, rfl, same⟩ := later.mp behind
            exact ⟨c :: middle, back, rfl, same⟩
        next =>
          obtain ⟨middle, back, rfl, same⟩ := later.mp member
          exact ⟨c :: middle, back, rfl, same⟩
      · rintro ⟨middle, back, text, same⟩
        unfold cutsAtSlashes
        cases middle with
        | nil =>
            obtain ⟨rfl, rfl⟩ := List.cons.inj text
            rw [if_pos rfl, same, List.append_nil]
            exact List.mem_cons_self
        | cons first middle =>
            obtain ⟨rfl, rfl⟩ := List.cons.inj text
            have behind := later.mpr ⟨middle, back, rfl, same⟩
            split
            · exact List.mem_cons_of_mem _ behind
            · exact behind

theorem mem_textAndAncestors {text cut : String}
    : cut ∈ textAndAncestors text ↔ (cut = text ∧ text ≠ "") ∨ CutOf text.toList cut := by
  have cuts := @mem_cutsAtSlashes [] text.toList cut
  rw [textAndAncestors, List.mem_append, cuts]
  simp only [List.nil_append, CutOf]
  by_cases empty : text = ""
  · simp [empty]
  · simp [empty]

/-- The last separator comes first, and then those in front of it. -/
theorem cutOf_append {front name : List Char} {cut : String} (whole : '/' ∉ name)
    : CutOf (front ++ '/' :: name) cut
      ↔ (cut = if front = [] then "/" else String.ofList front) ∨ CutOf front cut := by
  constructor
  · rintro ⟨first, back, same, rfl⟩
    rcases List.append_eq_append_iff.mp same with ⟨more, rfl, rest⟩ | ⟨more, rfl, rest⟩
    · cases more with
      | nil => exact .inl (by rw [List.append_nil])
      | cons c more =>
          have last : '/' ∈ name := by
            rw [(List.cons.inj rest).2]
            simp
          exact absurd last whole
    · cases more with
      | nil => exact .inl (by rw [List.append_nil])
      | cons c more =>
          obtain ⟨rfl, -⟩ := List.cons.inj rest
          exact .inr ⟨first, more, rfl, rfl⟩
  · rintro (rfl | ⟨first, back, rfl, rfl⟩)
    · exact ⟨front, name, rfl, rfl⟩
    · exact ⟨first, back ++ '/' :: name, by simp, rfl⟩

theorem mem_pushTextAndAncestors {texts : List String} {text : List Char} {cut : String}
    : cut ∈ pushTextAndAncestors texts text
      ↔ cut ∈ texts ∨ (cut = String.ofList text ∧ text ≠ []) ∨ CutOf text cut := by
  have pushed (texts : List String) (other : String)
      : cut ∈ pushText texts other ↔ cut ∈ texts ∨ cut = other := by
    unfold pushText
    split
    · grind
    · simp
  have started (texts : List String) (text : List Char)
      : cut ∈ (if text = [] then texts else pushText texts (String.ofList text))
        ↔ cut ∈ texts ∨ (cut = String.ofList text ∧ text ≠ []) := by
    split
    next empty => simp [empty]
    next nonempty => simp [pushed, nonempty]
  fun_induction pushTextAndAncestors texts text with
  | case1 texts text texts' none =>
      have uncut : ¬ CutOf text cut := by
        rintro ⟨front, back, rfl, -⟩
        exact Texts.beforeLast_eq_none.mp none (by simp)
      have whole : cut ∈ texts' ↔ _ := started texts text
      rw [whole, or_iff_left uncut]
  | case2 texts text texts' root =>
      obtain ⟨name, same, whole⟩ := Texts.beforeLast_eq_some.mp root
      have first : ¬ CutOf [] cut := by
        rintro ⟨front, back, same, -⟩
        exact List.append_ne_nil_of_right_ne_nil front (List.cons_ne_nil _ _) same.symm
      have cuts := @cutOf_append [] name cut whole
      rw [← same, if_pos rfl, or_iff_left first] at cuts
      have here : cut ∈ texts' ↔ _ := started texts text
      rw [pushed, here, cuts, or_assoc]
  | case3 texts text texts' c front cutting ih =>
      obtain ⟨name, same, whole⟩ := Texts.beforeLast_eq_some.mp cutting
      have nonempty := List.cons_ne_nil c front
      have cuts := @cutOf_append (c :: front) name cut whole
      rw [← same, if_neg nonempty] at cuts
      have here : cut ∈ texts' ↔ _ := started texts text
      refine ih.trans ?_
      rw [here, cuts, and_iff_left nonempty, or_assoc]

theorem mem_orderedMatchTexts {path : PathBuf} {text : String}
    : text ∈ orderedMatchTexts env path ↔ text ∈ pathMatchTexts env path := by
  have named (other : String) : other.toList ≠ [] ↔ other ≠ "" := by
    rw [ne_eq, ne_eq, String.toList_eq_nil_iff]
  rw [orderedMatchTexts, pathMatchTexts, mem_pushTextAndAncestors, mem_pushTextAndAncestors,
    List.mem_append, mem_textAndAncestors, mem_textAndAncestors]
  simp only [List.not_mem_nil, false_or, String.ofList_toList, named]

/-- A path is protected exactly if there is a reason, whatever the marker files say. -/
theorem protectionReason_isSome (markerReason : PathBuf → Option String) (path : PathBuf)
    : (registry.protectionReason env markerReason path).isSome
      = registry.isProtected env path := by
  unfold protectionReason isProtected matchesMarker
  cases registry.findMarkerAncestor env path with
  | some markerDir =>
      dsimp only
      split <;> rfl
  | none =>
      rw [Bool.eq_iff_iff]
      simp only [List.findSome?_isSome_iff, mem_orderedMatchTexts, Option.isSome_map,
        List.find?_isSome, Option.isSome_none, Bool.false_or, matchesConfigPattern,
        List.any_eq_true]

def ResolvesNothing (env : PathEnv) : Prop :=
  ∀ location : Location, env.resolveAbsolutePath location.toPathBuf = location

/-- What a text and its cuts are, a text that goes on behind a separator has for cuts. -/
theorem cutOf_of_text {text rest : List Char} {cut : String}
    (here : (cut = String.ofList text ∧ text ≠ []) ∨ CutOf text cut)
    : CutOf (text ++ '/' :: rest) cut := by
  rcases here with ⟨rfl, nonempty⟩ | ⟨front, back, rfl, rfl⟩
  · exact ⟨text, rest, rfl, (if_neg nonempty).symm⟩
  · exact ⟨front, back ++ '/' :: rest, by simp, rfl⟩

/-- A location below another one is matched by all texts that one is matched by. -/
theorem textAndAncestors_below {low high : Location} {cut : String}
    (below : low.startsWith high = true)
    (member : cut ∈ textAndAncestors (Texts.slashed high.text))
    : cut ∈ textAndAncestors (Texts.slashed low.text) := by
  obtain ⟨above⟩ := high
  obtain ⟨names⟩ := low
  obtain ⟨rest, rfl⟩ := Location.startsWith_iff.mp below
  cases rest with
  | nil => simpa using member
  | cons name rest =>
      have longer : above ++ name :: rest ≠ [] :=
        List.append_ne_nil_of_right_ne_nil _ (List.cons_ne_nil _ _)
      rw [mem_textAndAncestors] at member ⊢
      right
      by_cases root : above = []
      · subst root
        have cuts : cut = "/" := by
          rcases member with ⟨rfl, -⟩ | ⟨front, back, same, rfl⟩
          · decide
          · cases front with
            | nil => rfl
            | cons c front =>
                have short : (c :: front ++ '/' :: back).length = 1 :=
                  congrArg List.length same.symm
                simp at short
        subst cuts
        rw [Texts.slashed, Location.toList_text longer, String.toList_ofList]
        exact ⟨[], _, rfl, rfl⟩
      · have upper : (Texts.slashed (Location.mk above).text).toList ≠ [] := by
          rw [Texts.slashed, Location.toList_text root, String.toList_ofList]
          cases above with
          | nil => exact absurd rfl root
          | cons first above => simp
        have split : ∃ behind, (Texts.slashed (Location.mk (above ++ name :: rest)).text).toList
            = (Texts.slashed (Location.mk above).text).toList ++ '/' :: behind := by
          simp [Texts.slashed, Location.toList_text root, Location.toList_text longer]
        obtain ⟨behind, same⟩ := split
        rw [same]
        refine cutOf_of_text (member.imp_left fun ⟨text, _⟩ => ⟨?_, upper⟩)
        rw [String.ofList_toList, text]

theorem isProtected_below (identity : ResolvesNothing env) {low high : Location}
    (below : low.startsWith high = true)
    (guarded : registry.isProtected env high.toPathBuf = true)
    : registry.isProtected env low.toPathBuf = true := by
  rw [isProtected_iff] at guarded ⊢
  rw [identity] at guarded ⊢
  rcases guarded with ⟨dir, above, known⟩ | ⟨text, tried, matched⟩
  · have upper := Location.startsWith_trans below (Location.startsWith_of_mem_ancestors above)
    refine .inl ⟨dir, ?_, known⟩
    by_cases same : dir = low
    · exact same ▸ List.mem_cons_self
    · exact List.mem_cons_of_mem _ (Location.mem_properAncestors upper same)
  · refine .inr ⟨text, ?_, matched⟩
    unfold pathMatchTexts normalizePathForMatching at tried ⊢
    rw [identity] at tried ⊢
    rcases List.mem_append.mp tried with spelled | resolved
    · exact List.mem_append_left _ (textAndAncestors_below below spelled)
    · exact List.mem_append_right _ (textAndAncestors_below below resolved)

theorem extends_discoverMarkersIn (world : FileWorld) (dirs : List Location)
    : Extends (discoverMarkersIn world env dirs registry).1 registry := by
  fun_induction discoverMarkersIn world env dirs registry with
  | case1 => exact .refl _
  | case2 dir _ _ _ _ _ ih => exact ih.trans (extends_registerMarker _ _ _)
  | case3 _ _ _ _ _ _ _ ih => exact ih
  | case4 => exact .refl _
  | case5 => exact .refl _

theorem extends_discoverLoop (world : ListedWorld) (maxDepth found : Nat)
    (queue : List (PathBuf × Nat))
    : Extends (discoverLoop world env maxDepth registry found queue).1 registry := by
  fun_induction discoverLoop world env maxDepth registry found queue with
  | case1 registry => exact .refl registry
  | case2 registry _ dir _ _ _ _ _ ih => exact ih.trans (extends_registerMarker registry env dir)
  | case3 _ _ _ _ _ _ _ _ ih => exact ih
  | case4 _ _ _ _ _ _ _ _ _ _ _ ih => exact ih
  | case5 _ _ _ _ _ _ _ _ _ _ _ ih => exact ih
  | case6 registry => exact .refl registry
  | case7 _ _ _ _ _ _ _ _ _ _ ih => exact ih

inductive RegistryCall where
  | registerMarker (dir : PathBuf)
  | discoverMarkers (world : ListedWorld) (root : PathBuf) (maxDepth : Nat)
  | discoverAncestorMarkers (world : FileWorld) (path : PathBuf)

def afterCall (env : PathEnv) (registry : ProtectionRegistry)
    : RegistryCall → ProtectionRegistry
  | .registerMarker dir => registry.registerMarker env dir
  | .discoverMarkers world root maxDepth =>
      (registry.discoverMarkers world env root maxDepth).1
  | .discoverAncestorMarkers world path => (registry.discoverAncestorMarkers world env path).1

theorem extends_afterCall (registry : ProtectionRegistry) (env : PathEnv) (call : RegistryCall)
    : Extends (afterCall env registry call) registry := by
  cases call with
  | registerMarker dir => exact extends_registerMarker registry env dir
  | discoverMarkers world root maxDepth => exact extends_discoverLoop world maxDepth 0 _
  | discoverAncestorMarkers world path => exact extends_discoverMarkersIn world _

def Lists (world : ListedWorld) (dir : Location) (name : FileName) : Prop :=
  ∃ entries, world.listing dir.toPathBuf = .ok entries ∧ some (name, some .directory) ∈ entries

/-- The way from a directory at some depth down to a marker, through listed directories without
a marker.
-/
inductive Discoverable (world : ListedWorld) (maxDepth : Nat) : Location → Nat → Location → Prop
  | here {dir : Location} {depth : Nat} (marked : HasMarker world.toFileWorld dir)
      : Discoverable world maxDepth dir depth dir
  | deeper {dir target : Location} {depth : Nat} {name : FileName}
      (unmarked : ¬ HasMarker world.toFileWorld dir) (shallow : depth < maxDepth)
      (listed : Lists world dir name)
      (rest : Discoverable world maxDepth (dir.descend [name]) (depth + 1) target)
      : Discoverable world maxDepth dir depth target

def FromStack (world : ListedWorld) (maxDepth : Nat) (queue : List (PathBuf × Nat))
    (target : Location) : Prop :=
  ∃ dir depth, (dir.toPathBuf, depth) ∈ queue ∧ Discoverable world maxDepth dir depth target

variable {world : ListedWorld} {maxDepth : Nat}
variable {entries : List (Option (FileName × Option FsEntryKind))} {dir : Location}

theorem mem_childDirs {path : PathBuf}
    : path ∈ childDirs dir.toPathBuf entries
      ↔ ∃ name, some (name, some .directory) ∈ entries
        ∧ path = (dir.descend [name]).toPathBuf := by
  have joined (name : FileName)
      : dir.toPathBuf.join name.text = (dir.descend [name]).toPathBuf :=
    (Location.toPathBuf_below dir.names name).symm
  rw [childDirs, List.mem_filterMap]
  constructor
  · rintro ⟨entry, member, same⟩
    split at same
    next name =>
      obtain rfl := Option.some.inj same
      exact ⟨name, member, joined name⟩
    all_goals cases same
  · rintro ⟨name, member, rfl⟩
    exact ⟨_, member, congrArg some (joined name)⟩

variable {queue : List (PathBuf × Nat)}

theorem fromStack_cons {depth : Nat} {target : Location}
    : FromStack world maxDepth ((dir.toPathBuf, depth) :: queue) target
      ↔ Discoverable world maxDepth dir depth target
        ∨ FromStack world maxDepth queue target := by
  constructor
  · rintro ⟨other, otherDepth, member, found⟩
    rcases List.mem_cons.mp member with same | later
    · obtain ⟨path, rfl⟩ := Prod.mk.inj same
      exact .inl (Location.eq_of_components (congrArg _ path) ▸ found)
    · exact .inr ⟨other, otherDepth, later, found⟩
  · rintro (found | ⟨other, otherDepth, member, found⟩)
    · exact ⟨dir, depth, List.mem_cons_self, found⟩
    · exact ⟨other, otherDepth, List.mem_cons_of_mem _ member, found⟩

theorem discoverable_of_marked {dir target : Location} {depth : Nat}
    (marked : HasMarker world.toFileWorld dir)
    : Discoverable world maxDepth dir depth target ↔ target = dir := by
  constructor
  · intro found
    cases found with
    | here => rfl
    | deeper unmarked => exact absurd marked unmarked
  · rintro rfl
    exact .here marked

/-- From a directory without a marker the way goes on to a child. -/
theorem discoverable_of_unmarked {dir target : Location} {depth : Nat}
    (unmarked : ¬ HasMarker world.toFileWorld dir)
    : Discoverable world maxDepth dir depth target
      ↔ depth < maxDepth ∧ ∃ name, Lists world dir name
        ∧ Discoverable world maxDepth (dir.descend [name]) (depth + 1) target := by
  constructor
  · intro found
    cases found with
    | here marked => exact absurd marked unmarked
    | deeper _ shallow listed rest => exact ⟨shallow, _, listed, rest⟩
  · rintro ⟨shallow, name, listed, rest⟩
    exact .deeper unmarked shallow listed rest

theorem hasMarker_of_lstat {entry : FsIdentity}
    (found : world.lstat (dir.toPathBuf.join markerFilename) = .ok entry)
    : HasMarker world.toFileWorld dir := ⟨entry, found⟩

theorem not_hasMarker_of_lstat {fault : IoError}
    (failed : world.lstat (dir.toPathBuf.join markerFilename) = .error fault)
    : ¬ HasMarker world.toFileWorld dir := by
  rintro ⟨entry, found⟩
  rw [failed] at found
  cases found

def Canonical (queue : List (PathBuf × Nat)) : Prop :=
  ∀ item ∈ queue, ∃ dir : Location, item.1 = dir.toPathBuf

theorem canonical_children {depth : Nat} (rest : Canonical queue)
    : Canonical ((childDirs dir.toPathBuf entries).reverse.map (·, depth + 1) ++ queue) := by
  intro item member
  rcases List.mem_append.mp member with child | later
  · obtain ⟨path, listed, rfl⟩ := List.mem_map.mp child
    obtain ⟨name, -, rfl⟩ := mem_childDirs.mp (List.mem_reverse.mp listed)
    exact ⟨_, rfl⟩
  · exact rest item later

/-- Putting the children on the stack keeps what it leads to. -/
theorem fromStack_children {dir target : Location} {depth : Nat}
    (listed : world.listing dir.toPathBuf = .ok entries)
    : FromStack world maxDepth
        ((childDirs dir.toPathBuf entries).reverse.map (·, depth + 1) ++ queue) target
      ↔ (∃ name, Lists world dir name
          ∧ Discoverable world maxDepth (dir.descend [name]) (depth + 1) target)
        ∨ FromStack world maxDepth queue target := by
  constructor
  · rintro ⟨other, otherDepth, member, found⟩
    rcases List.mem_append.mp member with child | later
    · obtain ⟨path, within, same⟩ := List.mem_map.mp child
      obtain ⟨name, entry, spelled⟩ := mem_childDirs.mp (List.mem_reverse.mp within)
      obtain ⟨here, rfl⟩ := Prod.mk.inj same
      obtain rfl :=
        Location.eq_of_components (congrArg PathBuf.components (here.symm.trans spelled))
      exact .inl ⟨name, ⟨entries, listed, entry⟩, found⟩
    · exact .inr ⟨other, otherDepth, later, found⟩
  · rintro (⟨name, ⟨others, same, entry⟩, found⟩ | ⟨other, otherDepth, member, found⟩)
    · rw [listed] at same
      obtain rfl := Except.ok.inj same
      refine ⟨dir.descend [name], depth + 1, List.mem_append_left _ ?_, found⟩
      exact List.mem_map.mpr
        ⟨_, List.mem_reverse.mpr (mem_childDirs.mpr ⟨name, entry, rfl⟩), rfl⟩
    · exact ⟨other, otherDepth, List.mem_append_right _ member, found⟩

/-- The markers a run of the loop adds are some that the stack leads to; all of them, if it comes
to the end.
-/
structure Discovers (world : ListedWorld) (maxDepth : Nat) (registry : ProtectionRegistry)
    (queue : List (PathBuf × Nat)) (result : ProtectionRegistry × Except SbhError Nat)
    : Prop where
  only : ∀ target ∈ result.1.markerPaths,
    target ∈ registry.markerPaths ∨ FromStack world maxDepth queue target
  all : ∀ count, result.2 = .ok count → ∀ target,
    FromStack world maxDepth queue target → target ∈ result.1.markerPaths
  /-- It stops only at a directory that fails to be listed for no usual reason. -/
  failure : ∀ error, result.2 = .error error → ∃ dir fault, error = .io dir fault
    ∧ world.listing dir = .error fault ∧ fault.kind = .other

/-- Stacks that lead to the same markers are as good as one another. -/
theorem Discovers.congr {queue other : List (PathBuf × Nat)}
    {result : ProtectionRegistry × Except SbhError Nat}
    (discovers : Discovers world maxDepth registry other result)
    (same : ∀ target, FromStack world maxDepth queue target
      ↔ FromStack world maxDepth other target)
    : Discovers world maxDepth registry queue result where
  only target member := (discovers.only target member).imp_right (same target).mpr
  all count ok target found := discovers.all count ok target ((same target).mp found)
  failure := discovers.failure

/-- Nothing is found from a directory that has no marker and no listing. -/
theorem discovers_unlisted {depth : Nat} {result : ProtectionRegistry × Except SbhError Nat}
    (unmarked : ¬ HasMarker world.toFileWorld dir)
    (unlisted : ¬ (depth < maxDepth ∧ ∃ name, Lists world dir name))
    (discovers : Discovers world maxDepth registry queue result)
    : Discovers world maxDepth registry ((dir.toPathBuf, depth) :: queue) result := by
  refine discovers.congr fun target => ?_
  have nothing : ¬ Discoverable world maxDepth dir depth target := by
    rw [discoverable_of_unmarked unmarked]
    rintro ⟨shallow, name, listed, -⟩
    exact unlisted ⟨shallow, name, listed⟩
  rw [fromStack_cons, or_iff_right nothing]

theorem not_lists_of_error {fault : IoError}
    (failed : world.listing dir.toPathBuf = .error fault) : ¬ ∃ name, Lists world dir name := by
  rintro ⟨name, entries, listed, -⟩
  rw [failed] at listed
  cases listed

/-- The loop finds what its stack leads to, by induction on its run. -/
theorem discovers_discoverLoop (identity : ResolvesNothing env) {found : Nat}
    (canonical : Canonical queue)
    : Discovers world maxDepth registry queue
        (discoverLoop world env maxDepth registry found queue) := by
  fun_induction discoverLoop world env maxDepth registry found queue with
  | case1 registry found =>
      refine ⟨fun target known => .inl known, fun count ok target fromStack => ?_, nofun⟩
      obtain ⟨dir, depth, member, -⟩ := fromStack
      cases member
  | case2 registry found dir depth queue entry isMarked found' ih =>
      obtain ⟨dir, rfl⟩ := canonical _ List.mem_cons_self
      have later := ih fun item member => canonical item (List.mem_cons_of_mem _ member)
      have marked := hasMarker_of_lstat isMarked
      have first (target : Location)
          : FromStack world maxDepth ((dir.toPathBuf, depth) :: queue) target
            ↔ target = dir ∨ FromStack world maxDepth queue target := by
        rw [fromStack_cons, discoverable_of_marked marked]
      refine ⟨fun target known => ?_, fun count ok target fromStack => ?_, later.failure⟩
      · rcases later.only target known with old | fromStack
        · rw [mem_registerMarker, identity] at old
          exact old.imp_right fun here => (first target).mpr (.inl here)
        · exact .inr ((first target).mpr (.inr fromStack))
      · rcases (first target).mp fromStack with rfl | behind
        · apply (extends_discoverLoop world maxDepth found' queue).markers
          exact mem_registerMarker.mpr (.inr (identity target).symm)
        · exact later.all count ok target behind
  | case3 registry found dir depth queue fault unmarked deep ih =>
      obtain ⟨dir, rfl⟩ := canonical _ List.mem_cons_self
      have later := ih fun item member => canonical item (List.mem_cons_of_mem _ member)
      exact discovers_unlisted (not_hasMarker_of_lstat unmarked)
        (fun listed => absurd listed.1 (Nat.not_lt.mpr deep)) later
  | case4 registry found dir depth queue fault unmarked shallow fault' listed denied ih =>
      obtain ⟨dir, rfl⟩ := canonical _ List.mem_cons_self
      have later := ih fun item member => canonical item (List.mem_cons_of_mem _ member)
      exact discovers_unlisted (not_hasMarker_of_lstat unmarked)
        (fun lists => not_lists_of_error listed lists.2) later
  | case5 registry found dir depth queue fault unmarked shallow fault' listed absent ih =>
      obtain ⟨dir, rfl⟩ := canonical _ List.mem_cons_self
      have later := ih fun item member => canonical item (List.mem_cons_of_mem _ member)
      exact discovers_unlisted (not_hasMarker_of_lstat unmarked)
        (fun lists => not_lists_of_error listed lists.2) later
  | case6 registry found dir depth queue fault unmarked shallow fault' listed other =>
      refine ⟨fun target known => .inl known, nofun, ?_⟩
      rintro _ ⟨⟩
      exact ⟨dir, fault', rfl, listed, other⟩
  | case7 registry found dir depth queue fault unmarked shallow entries listed ih =>
      obtain ⟨dir, rfl⟩ := canonical _ List.mem_cons_self
      have later := ih (canonical_children fun item member =>
        canonical item (List.mem_cons_of_mem _ member))
      refine later.congr fun target => ?_
      rw [fromStack_cons, fromStack_children listed,
        discoverable_of_unmarked (not_hasMarker_of_lstat unmarked),
        and_iff_right (Nat.not_le.mp shallow)]

/-- A marked directory at or below the root, not too deep, with no marked directory above it from
the root on.
-/
structure Outermost (world : FileWorld) (root : Location) (maxDepth : Nat) (target : Location)
    : Prop where
  marked : HasMarker world target
  within : target.startsWith root = true
  shallow : target.names.length ≤ root.names.length + maxDepth
  uncovered : ∀ above : Location, above.startsWith root = true → target.StrictlyBelow above →
    ¬ HasMarker world above

def ListedFrom (world : ListedWorld) (root target : Location) : Prop :=
  ∀ (above : Location) (name : FileName), above.startsWith root = true →
    target.startsWith (above.descend [name]) = true → Lists world above name

theorem discoverable_iff {dir target : Location} {depth : Nat} (fits : depth ≤ maxDepth)
    : Discoverable world maxDepth dir depth target
      ↔ HasMarker world.toFileWorld target ∧ ∃ names, target = dir.descend names
        ∧ depth + names.length ≤ maxDepth
        ∧ ∀ front name back, names = front ++ name :: back →
          ¬ HasMarker world.toFileWorld (dir.descend front)
          ∧ Lists world (dir.descend front) name := by
  constructor
  · intro found
    induction found with
    | @here dir depth marked =>
        refine ⟨marked, [], by simp [Location.descend], fits, fun front name back same => ?_⟩
        exact absurd same.symm (List.append_ne_nil_of_right_ne_nil _ (List.cons_ne_nil _ _))
    | @deeper dir target depth name unmarked shallow listed rest ih =>
        obtain ⟨marked, names, rfl, short, way⟩ := ih shallow
        refine ⟨marked, name :: names, by simp [Location.descend], ?_,
          fun front next back same => ?_⟩
        · rw [List.length_cons]
          omega
        · cases front with
          | nil =>
              obtain ⟨rfl, rfl⟩ := List.cons.inj same
              simpa [Location.descend] using ⟨unmarked, listed⟩
          | cons first front =>
              obtain ⟨rfl, rfl⟩ := List.cons.inj same
              simpa [Location.descend] using way front next back rfl
  · rintro ⟨marked, names, rfl, short, way⟩
    induction names generalizing dir depth with
    | nil =>
        have here : HasMarker world.toFileWorld dir := by simpa [Location.descend] using marked
        simpa [Location.descend] using Discoverable.here here
    | cons name names ih =>
        obtain ⟨unmarked, listed⟩ := way [] name names rfl
        rw [List.length_cons] at short
        have below : (dir.descend [name]).descend names = dir.descend (name :: names) := by
          simp [Location.descend]
        have later := @ih (dir.descend [name]) (depth + 1) (by omega) (below ▸ marked) (by omega)
          fun front next back same => by
            simpa [Location.descend] using way (name :: front) next back (by rw [same]; rfl)
        rw [← below]
        refine .deeper ?_ (by omega) ?_ later
        · simpa [Location.descend] using unmarked
        · simpa [Location.descend] using listed

/-- What lies between the root and something below it is reached by a part of the names. -/
theorem exists_front {root above target : Location} {names : List FileName}
    (same : target = root.descend names) (high : above.startsWith root = true)
    (low : target.startsWith above = true)
    : ∃ front back, names = front ++ back ∧ above = root.descend front := by
  obtain ⟨start⟩ := root
  obtain ⟨middle⟩ := above
  obtain ⟨front, rfl⟩ := Location.startsWith_iff.mp high
  obtain ⟨back, whole⟩ := Location.startsWith_iff.mp low
  refine ⟨front, back, ?_, rfl⟩
  rw [same, Location.descend, List.append_assoc] at whole
  exact (List.append_cancel_left whole).symm

/-- From a root the loop comes to the markers that no other one covers, as far as directories
are listed.
-/
theorem discoverable_root {root target : Location}
    : Discoverable world maxDepth root 0 target
      ↔ Outermost world.toFileWorld root maxDepth target ∧ ListedFrom world root target := by
  rw [discoverable_iff (Nat.zero_le _)]
  constructor
  · rintro ⟨marked, names, same, short, way⟩
    have within : target.startsWith root = true := same ▸ Location.descend_startsWith root names
    refine ⟨⟨marked, within, ?_, fun above high low => ?_⟩, fun above name high low => ?_⟩
    · rw [same, Location.descend, List.length_append]
      omega
    · obtain ⟨front, back, split, rfl⟩ := exists_front same high low.1
      cases back with
      | nil =>
          rw [List.append_nil] at split
          exact absurd (split ▸ same) low.2
      | cons name back => exact (way front name back split).1
    · have upper := Location.startsWith_trans low (Location.descend_startsWith above [name])
      obtain ⟨front, back, split, rfl⟩ := exists_front same high upper
      obtain ⟨rest, whole⟩ := Location.startsWith_iff.mp low
      have names' : names = front ++ name :: rest := by
        rw [same, Location.descend, Location.descend, Location.descend] at whole
        simpa using whole.symm
      exact (way front name rest names').2
  · rintro ⟨outermost, listed⟩
    obtain ⟨names, whole⟩ := Location.startsWith_iff.mp outermost.within
    have same : target = root.descend names := congrArg Location.mk whole.symm
    refine ⟨outermost.marked, names, same, ?_, fun front name back split => ?_⟩
    · have short := outermost.shallow
      rw [← whole, List.length_append] at short
      omega
    · have high := Location.descend_startsWith root front
      have low : target.startsWith ((root.descend front).descend [name]) = true := by
        rw [Location.startsWith_iff, ← whole, split]
        exact ⟨back, by simp [Location.descend]⟩
      refine ⟨outermost.uncovered _ high ⟨?_, fun equal => ?_⟩, listed _ name high low⟩
      · exact Location.startsWith_trans low (Location.descend_startsWith _ _)
      · have lengths := congrArg (fun location => location.names.length) equal
        rw [← whole, split] at lengths
        simp [Location.descend] at lengths

def built (env : PathEnv) : Option (List String) → ProtectionRegistry
  | some patterns => new env patterns
  | none => markerOnly

/-- After every run of calls: protection has a reason, reaches down, and is never lost; and a
discovery that comes to its end finds the marked directories that no other one covers, as far as
they are listed.
-/
theorem protection_closed (env : PathEnv) (identity : ResolvesNothing env)
    (patterns : Option (List String)) (calls : List RegistryCall)
    : let registry := calls.foldl (afterCall env) (built env patterns)
      (∀ markerReason path, registry.isProtected env path = true
        ↔ (registry.protectionReason env markerReason path).isSome = true)
      ∧ (∀ low high : Location, low.startsWith high = true →
        registry.isProtected env high.toPathBuf = true →
        registry.isProtected env low.toPathBuf = true)
      ∧ (∀ call path, registry.isProtected env path = true →
        (afterCall env registry call).isProtected env path = true)
      ∧ ∀ (world : ListedWorld) (root : Location) (maxDepth : Nat),
        let result := registry.discoverMarkers world env root.toPathBuf maxDepth
        (∀ target ∈ result.1.markerPaths, target ∈ registry.markerPaths
          ∨ Outermost world.toFileWorld root maxDepth target ∧ ListedFrom world root target)
        ∧ (∀ count, result.2 = .ok count → ∀ target,
          Outermost world.toFileWorld root maxDepth target → ListedFrom world root target →
          target ∈ result.1.markerPaths)
        ∧ ∀ error, result.2 = .error error → ∃ dir fault, error = .io dir fault
          ∧ world.listing dir = .error fault ∧ fault.kind = .other := by
  intro registry
  refine ⟨fun markerReason path => ?_, fun low high => isProtected_below identity,
    fun call path => (extends_afterCall registry env call).isProtected,
    fun world root maxDepth => ?_⟩
  · rw [protectionReason_isSome]
  · have canonical : Canonical [((env.resolveAbsolutePath root.toPathBuf).toPathBuf, 0)] := by
      intro item member
      obtain rfl := List.mem_singleton.mp member
      exact ⟨_, rfl⟩
    have discovers : Discovers world maxDepth registry _
        (registry.discoverMarkers world env root.toPathBuf maxDepth) :=
      discovers_discoverLoop identity canonical
    have stack (target : Location)
        : FromStack world maxDepth [((env.resolveAbsolutePath root.toPathBuf).toPathBuf, 0)] target
          ↔ Outermost world.toFileWorld root maxDepth target ∧ ListedFrom world root target := by
      rw [identity, fromStack_cons, discoverable_root, or_iff_left]
      rintro ⟨dir, depth, member, -⟩
      cases member
    refine ⟨fun target known => ?_, fun count ok target outermost listed => ?_,
      discovers.failure⟩
    · exact (discovers.only target known).imp_right (stack target).mp
    · exact discovers.all count ok target ((stack target).mpr ⟨outermost, listed⟩)

theorem resolvesNothing_plainEnv : ResolvesNothing plainEnv :=
  Location.ofNames_toPathBuf

def dataDir : Location := ⟨[⟨"srv", by decide⟩, ⟨"data", .refl true⟩]⟩

theorem protection_closed_plain
    : ([.registerMarker ⟨"/srv/data"⟩, .discoverAncestorMarkers emptyDirectories ⟨"/opt"⟩].foldl
        (afterCall plainEnv) (built plainEnv (some ["/opt/**"]))).isProtected plainEnv
          (dataDir.descend [⟨"cache", by decide⟩]).toPathBuf = true :=
  (protection_closed plainEnv resolvesNothing_plainEnv _ _).2.1 _ dataDir (by decide) (by decide)

/-- No directory can be listed, and one has a marker. -/
def unreadableWorld : ListedWorld where
  toFileWorld :=
    { emptyDirectories with
      lstat := fun path =>
        if path = dataDir.toPathBuf.join markerFilename then .ok ⟨1, 2, .file⟩
        else .error ⟨.notFound, "No such file or directory"⟩ }
  listing _ := .error ⟨.permissionDenied, "Permission denied"⟩

/-- A marker below a directory that cannot be listed is not found, and nothing is reported. -/
theorem discoverMarkers_misses_unlisted
    : ¬ ∀ (world : ListedWorld) (root : Location) (maxDepth count : Nat),
      (markerOnly.discoverMarkers world plainEnv root.toPathBuf maxDepth).2 = .ok count →
      ∀ target,
        target ∈ (markerOnly.discoverMarkers world plainEnv root.toPathBuf maxDepth).1.markerPaths
          ↔ Outermost world.toFileWorld root maxDepth target := by
  intro exact_
  have canonical : (plainEnv.resolveAbsolutePath (Location.root.toPathBuf)).toPathBuf
      = Location.root.toPathBuf := by rw [resolvesNothing_plainEnv]
  have absent (path : PathBuf) (other : path ≠ dataDir.toPathBuf.join markerFilename)
      : unreadableWorld.lstat path = .error ⟨.notFound, "No such file or directory"⟩ :=
    if_neg other
  have run : markerOnly.discoverMarkers unreadableWorld plainEnv Location.root.toPathBuf 2
      = (markerOnly, .ok 0) := by
    rw [discoverMarkers, canonical, discoverLoop, absent _ (by decide)]
    exact discoverLoop.eq_1 unreadableWorld plainEnv 2 markerOnly 0
  have outermost : Outermost unreadableWorld.toFileWorld .root 2 dataDir := by
    have present : HasMarker unreadableWorld.toFileWorld dataDir :=
      ⟨⟨1, 2, .file⟩, by simp [unreadableWorld]⟩
    refine ⟨present, by decide, by decide, fun above high low => ?_⟩
    rintro ⟨entry, marked⟩
    have other : above.toPathBuf.join markerFilename ≠ dataDir.toPathBuf.join markerFilename := by
      intro same
      have joined := congrArg PathBuf.components same
      have named : isFileName markerFilename = true := by decide
      rw [PathBuf.components_join _ named, PathBuf.components_join _ named] at joined
      exact low.2 (Location.eq_of_components (List.append_cancel_right joined)).symm
    rw [absent _ other] at marked
    cases marked
  have found := (exact_ unreadableWorld .root 2 0 (by rw [run]) dataDir).mpr outermost
  rw [run] at found
  cases found

end ProtectionRegistry

end StorageBallast
