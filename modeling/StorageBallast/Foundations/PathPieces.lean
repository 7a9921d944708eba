import Mathlib.Data.List.Induction
import Mathlib.Data.List.TakeWhile
import StorageBallast.Foundations.Paths
import StorageBallast.Foundations.Texts

/-! Pieces of a path text between separators, and the components they stand for. -/

namespace StorageBallast.PathBuf

def pieces (path : PathBuf) : List String :=
  (splitSlashes path.text.toList).map String.ofList

theorem splitSlashes_ne_nil (text : List Char)
    : splitSlashes text ≠ [] := by
  fun_cases splitSlashes text <;> simp_all

theorem splitSlashes_append (front back : List Char)
    : splitSlashes (front ++ '/' :: back) = splitSlashes front ++ splitSlashes back := by
  fun_induction splitSlashes front
  case case1 => simp [splitSlashes]
  case case2 rest ih => simp [splitSlashes, ih]
  case case3 c rest sep none ih => exact absurd none (splitSlashes_ne_nil _)
  case case4 c rest sep piece pieces same ih =>
    rw [List.cons_append, splitSlashes.eq_3 _ _ sep, ih, same]
    rfl

variable {piece : List Char}

theorem splitSlashes_of_whole (whole : '/' ∉ piece)
    : splitSlashes piece = [piece] := by
  induction piece with
  | nil => rfl
  | cons c tail ih =>
      have cSep : c ≠ '/' := fun same => whole (by simp [same])
      have tailWhole : '/' ∉ tail := fun member => whole (List.mem_cons_of_mem _ member)
      rw [splitSlashes.eq_3 _ _ cSep, ih tailWhole]

theorem splitSlashes_append_slash (whole : '/' ∉ piece) (rest : List Char)
    : splitSlashes (piece ++ '/' :: rest) = piece :: splitSlashes rest := by
  rw [splitSlashes_append, splitSlashes_of_whole whole]
  rfl

/-- The front of a split text is its first piece, and then either nothing is left or a
separator follows.
-/
theorem cons_prefix_splitSlashes {text piece : List Char} {more : List (List Char)}
    : piece :: more <+: splitSlashes text
      ↔ '/' ∉ piece
        ∧ ((text = piece ∧ more = [])
          ∨ ∃ rest, text = piece ++ '/' :: rest ∧ more <+: splitSlashes rest) := by
  constructor
  · intro front
    by_cases sep : '/' ∈ text
    · obtain ⟨first, rest, rfl, whole⟩ := List.eq_append_cons_of_mem sep
      rw [splitSlashes_append_slash whole, List.cons_prefix_cons] at front
      obtain ⟨rfl, later⟩ := front
      exact ⟨whole, Or.inr ⟨rest, rfl, later⟩⟩
    · rw [splitSlashes_of_whole sep, List.cons_prefix_cons, List.prefix_nil] at front
      obtain ⟨rfl, rfl⟩ := front
      exact ⟨sep, Or.inl ⟨rfl, rfl⟩⟩
  · rintro ⟨whole, ⟨rfl, rfl⟩ | ⟨rest, rfl, later⟩⟩
    · simp [splitSlashes_of_whole whole]
    · rw [splitSlashes_append_slash whole, List.cons_prefix_cons]
      exact ⟨rfl, later⟩

variable {path : PathBuf}

/-- Names in front of the pieces are pieces in front of the split text. -/
theorem prefix_pieces_iff {names : List String}
    : names <+: path.pieces ↔ names.map String.toList <+: splitSlashes path.text.toList := by
  have spelled : names = (names.map String.toList).map String.ofList := by
    simp [Function.comp_def]
  have injective : Function.Injective String.ofList := fun _ _ same => by
    simpa using congrArg String.toList same
  conv_lhs => rw [spelled]
  exact List.prefix_map_iff_of_injective injective

/-- One more piece at the end is one more component, if pieces that name nothing were all
that stood there before.
-/
theorem components_append_piece {path longer : PathBuf} {front blank : List (List Char)}
    {component : Component} (named : pieceComponent piece = some component)
    (nonempty : front ≠ []) (blanks : blank.filterMap pieceComponent = [])
    (before : splitSlashes path.text.toList = front ++ blank)
    (after : splitSlashes longer.text.toList = front ++ [piece])
    (head : longer.text.toList.head? = path.text.toList.head?)
    : longer.components = path.components ++ [component] := by
  have sameHead : (front ++ blank).head? = (front ++ [piece]).head? := by
    cases front with
    | nil => exact absurd rfl nonempty
    | cons => rfl
  simp only [components, isAbsolute, before, after, head, sameHead, List.filterMap_append,
    blanks, List.append_nil, List.filterMap_cons, named, List.filterMap_nil]
  split
  · rfl
  · split <;> rfl

theorem components_join (path : PathBuf) {name : String} (valid : isFileName name = true)
    : (path.join name).components = path.components ++ [.normal name] := by
  simp only [isFileName, Bool.and_eq_true, bne_iff_ne, Bool.not_eq_true', List.contains_eq_mem,
    decide_eq_false_iff_not] at valid
  obtain ⟨⟨⟨blank, dot⟩, dots⟩, whole⟩ := valid
  have ne_of (text : String) (other : name ≠ text) : name.toList ≠ text.toList :=
    fun same => other (String.toList_injective same)
  have named : pieceComponent name.toList = some (.normal name) := by
    have blank' := ne_of _ blank
    have dot' := ne_of _ dot
    have dots' := ne_of _ dots
    simp only [pieceComponent]
    rw [if_neg (by simp_all), if_neg (by simp_all)]
    simp
  have joined := splitSlashes_of_whole whole
  obtain ⟨text⟩ := path
  unfold join
  by_cases none : text = ""
  · subst none
    have relative : name.toList.head? ≠ some '/' := fun head =>
      whole (List.mem_of_mem_head? head)
    have undotted : name.toList ≠ ['.'] := ne_of _ dot
    have alone : List.filterMap pieceComponent [name.toList] = [.normal name] := by
      rw [List.filterMap_cons, named, List.filterMap_nil]
    simp [components, isAbsolute, joined, alone, relative, undotted, splitSlashes,
      pieceComponent]
  · by_cases slash : text.toList.getLast? = some '/'
    · obtain ⟨front, same⟩ := List.getLast?_eq_some_iff.mp slash
      have before : splitSlashes text.toList = splitSlashes front ++ [[]] := by
        rw [same, splitSlashes_append]
        rfl
      have after : splitSlashes (text ++ name).toList
          = splitSlashes front ++ [name.toList] := by
        simp [same, splitSlashes_append, joined]
      have head : (text ++ name).toList.head? = text.toList.head? := by
        cases front <;> simp [same]
      rw [if_pos (Or.inr slash)]
      exact components_append_piece named (splitSlashes_ne_nil _) (by simp [pieceComponent])
        before after head
    · have after : splitSlashes (text ++ "/" ++ name).toList
          = splitSlashes text.toList ++ [name.toList] := by
        simp [splitSlashes_append, joined]
      have head : (text ++ "/" ++ name).toList.head? = text.toList.head? := by
        have nonempty : text.toList ≠ [] := by simpa using none
        cases same : text.toList with
        | nil => exact absurd same nonempty
        | cons => simp [same]
      rw [if_neg (by simp [none, slash])]
      exact components_append_piece named (splitSlashes_ne_nil _) rfl
        (List.append_nil _).symm after head

theorem join_of_open (nonempty : path.text ≠ "")
    (unfinished : path.text.toList.getLast? ≠ some '/') (name : String)
    : path.join name = ⟨path.text ++ "/" ++ name⟩ := by
  rw [join, if_neg (by simp [nonempty, unfinished])]

theorem whole_of_mem_splitSlashes {text piece : List Char} (member : piece ∈ splitSlashes text)
    : '/' ∉ piece := by
  fun_induction splitSlashes text generalizing piece with
  | case1 => simp_all
  | case2 rest ih =>
      rcases List.mem_cons.mp member with rfl | later
      · exact List.not_mem_nil
      · exact ih later
  | case3 c rest sep none => exact absurd none (splitSlashes_ne_nil _)
  | case4 c rest sep first pieces same ih =>
      rw [same] at ih
      rcases List.mem_cons.mp member with rfl | later
      · have whole := ih List.mem_cons_self
        simp [whole, Ne.symm sep]
      · exact ih (List.mem_cons_of_mem _ later)

variable {rest : List (List Char)} {first : List Char}

/-- Pieces put together with separators are the pieces of the text. -/
theorem splitSlashes_intercalate (whole : ∀ piece ∈ first :: rest, '/' ∉ piece)
    : splitSlashes (List.intercalate ['/'] (first :: rest)) = first :: rest := by
  induction rest generalizing first with
  | nil => simpa [List.intercalate] using splitSlashes_of_whole (whole first List.mem_cons_self)
  | cons next rest ih =>
      have later := ih fun piece member => whole piece (List.mem_cons_of_mem _ member)
      have text : List.intercalate ['/'] (first :: next :: rest)
          = first ++ '/' :: List.intercalate ['/'] (next :: rest) := by
        simp [List.intercalate]
      rw [text, splitSlashes_append_slash (whole first List.mem_cons_self), later]

/-- Trimming leaves a front, and what is trimmed names nothing. -/
theorem exists_trimPieces (pieces : List (List Char))
    : ∃ blank, pieces = trimPieces pieces ++ blank
        ∧ blank.filterMap pieceComponent = []
        ∧ ∀ last, (trimPieces pieces).getLast? = some last → last ≠ [] ∧ last ≠ ['.'] := by
  refine ⟨(pieces.reverse.takeWhile fun piece => piece = [] ∨ piece = ['.']).reverse, ?_, ?_, ?_⟩
  · rw [trimPieces, ← List.reverse_append, List.takeWhile_append_dropWhile, List.reverse_reverse]
  · rw [List.filterMap_eq_nil_iff]
    intro piece member
    have unnamed := List.mem_takeWhile_imp (List.mem_reverse.mp member)
    rw [pieceComponent, if_pos (of_decide_eq_true unnamed)]
  · intro last isLast
    rw [trimPieces, List.getLast?_reverse] at isLast
    have head := List.head?_dropWhile_not
      (fun piece : List Char => decide (piece = [] ∨ piece = ['.'])) pieces.reverse
    rw [isLast] at head
    simpa using head

theorem isAbsolute_of_pieces (split : splitSlashes path.text.toList = first :: rest)
    : path.isAbsolute = true ↔ first = [] ∧ rest ≠ [] := by
  unfold isAbsolute
  cases same : path.text.toList with
  | nil =>
      rw [same] at split
      obtain ⟨rfl, rfl⟩ := List.cons.inj split
      simp
  | cons c text =>
      rw [same] at split
      by_cases sep : c = '/'
      · subst sep
        obtain ⟨rfl, rfl⟩ := List.cons.inj split
        simp [splitSlashes_ne_nil]
      · have head : first ≠ [] := by
          rw [splitSlashes.eq_3 _ _ sep] at split
          cases later : splitSlashes text with
          | nil => exact absurd later (splitSlashes_ne_nil _)
          | cons piece pieces =>
              rw [later] at split
              exact fun none => List.cons_ne_nil _ _ ((List.cons.inj split).1.trans none)
        simp [sep, head]

def opening (first : List Char) (rest : List (List Char)) : List Component :=
  if first = [] ∧ rest ≠ [] then [.rootDir] else if first = ['.'] then [.curDir] else []

theorem components_of_pieces (split : splitSlashes path.text.toList = first :: rest)
    : path.components = opening first rest ++ (first :: rest).filterMap pieceComponent := by
  have absolute := isAbsolute_of_pieces split
  simp only [components, split, opening, List.head?_cons, Option.some.injEq]
  by_cases starts : first = [] ∧ rest ≠ []
  · rw [if_pos (absolute.mpr starts), if_pos starts]
    rfl
  · rw [if_neg (mt absolute.mp starts), if_neg starts]
    split <;> rfl

theorem exists_pieceComponent (named : piece ≠ [] ∧ piece ≠ ['.'])
    : ∃ component, pieceComponent piece = some component := by
  rw [pieceComponent, if_neg (not_or.mpr named)]
  split
  · exact ⟨_, rfl⟩
  · exact ⟨_, rfl⟩

theorem components_of_single
    (split : splitSlashes path.text.toList = first :: rest) (nonempty : first ≠ [])
    (unnamed : rest.filterMap pieceComponent = [])
    : ∃ last, path.components = [last] := by
  rw [components_of_pieces split, opening, if_neg (fun root => nonempty root.1),
    List.filterMap_cons, unnamed]
  by_cases dot : first = ['.']
  · subst dot
    exact ⟨.curDir, rfl⟩
  · obtain ⟨component, named⟩ := exists_pieceComponent ⟨nonempty, dot⟩
    rw [if_neg dot, named]
    exact ⟨component, rfl⟩

/-- The parent's text is the opening piece with the pieces above the last that names
something.
-/
theorem parent_of_pieces {path up : PathBuf} {first last : List Char}
    {rest front : List (List Char)} (split : splitSlashes path.text.toList = first :: rest)
    (body : trimPieces rest = front ++ [last]) (parent : path.parent = some up)
    : (splitSlashes up.text.toList = first :: trimPieces front
        ∧ (first = [] → trimPieces front ≠ []))
      ∨ (first = [] ∧ trimPieces front = [] ∧ up = ⟨"/"⟩) := by
  have whole : ∀ piece ∈ first :: rest, '/' ∉ piece := fun piece member =>
    whole_of_mem_splitSlashes (split ▸ member)
  have within : ∀ piece ∈ first :: trimPieces front, '/' ∉ piece := by
    intro piece member
    rcases List.mem_cons.mp member with rfl | member
    · exact whole _ List.mem_cons_self
    · obtain ⟨blank, kept, -⟩ := exists_trimPieces front
      obtain ⟨rear, whole', -⟩ := exists_trimPieces rest
      refine whole piece (List.mem_cons_of_mem _ ?_)
      rw [whole', body, kept]
      simp [member]
  unfold PathBuf.parent at parent
  simp only [split, body] at parent
  split at parent
  next none => simp at none
  next =>
    rw [List.dropLast_concat] at parent
    split at parent
    next none =>
      obtain rfl := Option.some.inj parent
      exact .inr ⟨rfl, none, rfl⟩
    next different =>
      obtain rfl := Option.some.inj parent
      rw [String.toList_ofList]
      exact .inl ⟨splitSlashes_intercalate within, different⟩

theorem components_parent {path up : PathBuf} (parent : path.parent = some up)
    : ∃ last, path.components = up.components ++ [last] := by
  cases split : splitSlashes path.text.toList with
  | nil => exact absurd split (splitSlashes_ne_nil _)
  | cons first rest =>
      obtain ⟨blank, whole, unnamed, named⟩ := exists_trimPieces rest
      rcases List.eq_nil_or_concat (trimPieces rest) with body | ⟨front, last, body⟩
      · unfold PathBuf.parent at parent
        simp only [split, body] at parent
        rw [body, List.nil_append] at whole
        split_ifs at parent with nonempty
        obtain rfl := Option.some.inj parent
        exact components_of_single split nonempty (whole ▸ unnamed)
      · rw [List.concat_eq_append] at body
        rw [body] at whole named
        obtain ⟨component, isLast⟩ := exists_pieceComponent (named last (by simp))
        obtain ⟨rear, kept, dropped, -⟩ := exists_trimPieces front
        have names : (first :: rest).filterMap pieceComponent
            = (first :: trimPieces front).filterMap pieceComponent ++ [component] := by
          conv_lhs => rw [whole, kept]
          simp only [List.filterMap_cons, List.filterMap_append, unnamed, dropped, isLast]
          cases pieceComponent first <;> simp
        refine ⟨component, ?_⟩
        rw [components_of_pieces split, names, ← List.append_assoc]
        have longer : rest ≠ [] := by
          rw [whole]
          simp
        rcases parent_of_pieces split body parent with ⟨pieces, rooted⟩ | ⟨rfl, none, rfl⟩
        · rw [components_of_pieces pieces]
          have start : opening first rest = opening first (trimPieces front) := by
            unfold opening
            by_cases empty : first = []
            · rw [if_pos ⟨empty, longer⟩, if_pos ⟨empty, rooted empty⟩]
            · have other (more : List (List Char)) : ¬ (first = [] ∧ more ≠ []) :=
                fun root => empty root.1
              rw [if_neg (other _), if_neg (other _)]
          rw [start]
        · rw [none, opening, if_pos ⟨rfl, longer⟩]
          rfl

theorem parent_shorter {path up : PathBuf} (parent : path.parent = some up)
    : up.components.length < path.components.length := by
  obtain ⟨last, same⟩ := components_parent parent
  rw [same, List.length_append]
  exact Nat.lt_add_one _

theorem lastName_concat (front : List Component) (last : Component)
    : lastName (front ++ [last]) = lastName [last] := by
  induction front with
  | nil => rfl
  | cons first front ih =>
      cases front with
      | nil => cases first <;> rfl
      | cons second front => 
          rw [← ih]
          cases first <;> rfl

/-- The last name stands after the components of the parent. -/
theorem components_of_fileName {path up : PathBuf} {name : String}
    (parent : path.parent = some up) (last : path.fileName = some name)
    : path.components = up.components ++ [.normal name] := by
  obtain ⟨component, same⟩ := components_parent parent
  rw [fileName, same, lastName_concat] at last
  cases component with
  | normal other =>
      obtain rfl := Option.some.inj last
      exact same
  | rootDir => cases last
  | curDir => cases last
  | parentDir => cases last

theorem isFileName_of_normal {name : String}
    (member : .normal name ∈ path.components) : isFileName name = true := by
  have named : .normal name ∈ (splitSlashes path.text.toList).filterMap pieceComponent := by
    unfold components at member
    dsimp only at member
    split at member
    · simpa using member
    · split at member
      · simpa using member
      · exact member
  obtain ⟨piece, piece_mem, same⟩ := List.mem_filterMap.mp named
  have whole := whole_of_mem_splitSlashes piece_mem
  unfold pieceComponent at same
  split_ifs at same with blank dots
  · cases same
  obtain rfl := Component.normal.inj (Option.some.inj same)
  have texts : ∀ text : String, piece ≠ text.toList → String.ofList piece ≠ text :=
    fun text other equal => other (by rw [← equal, String.toList_ofList])
  have empty := texts "" (fun equal => blank (.inl equal))
  have dot := texts "." (fun equal => blank (.inr equal))
  have up := texts ".." dots
  simp [isFileName, empty, dot, up, whole]

theorem isAbsolute_iff
    : path.isAbsolute = true ↔ path.components.head? = some .rootDir := by
  have unrooted (piece : List Char) : pieceComponent piece ≠ some .rootDir := by
    unfold pieceComponent
    split_ifs <;> simp
  have named (pieces : List (List Char))
      : (pieces.filterMap pieceComponent).head? ≠ some .rootDir := by
    intro root
    obtain ⟨piece, -, same⟩ := List.mem_filterMap.mp (List.mem_of_mem_head? root)
    exact unrooted piece same
  unfold components
  dsimp only
  cases path.isAbsolute with
  | true => simp
  | false =>
      rw [if_neg Bool.false_ne_true]
      split_ifs
      · simp
      · exact iff_of_false not_false (named _)

end StorageBallast.PathBuf

namespace StorageBallast.Location

theorem whole_of_fileName (name : FileName)
    : '/' ∉ name.text.toList ∧ name.text ≠ "" := by
  have valid := name.valid
  simp only [isFileName, Bool.and_eq_true, bne_iff_ne, Bool.not_eq_true', List.contains_eq_mem,
    decide_eq_false_iff_not] at valid
  exact ⟨valid.2, valid.1.1.1⟩

/-- A location below another one is spelled by joining its name. -/
theorem toPathBuf_below (names : List FileName) (name : FileName)
    : (Location.mk (names ++ [name])).toPathBuf
      = (Location.mk names).toPathBuf.join name.text := by
  have spelled : (Location.mk (names ++ [name])).text
      = String.join (names.map fun name => "/" ++ name.text) ++ "/" ++ name.text := by
    cases names <;> simp [text, String.join_append, String.append_assoc]
  cases names using List.reverseRecOn with
  | nil => simp [toPathBuf, text, PathBuf.join]
  | append_singleton above last =>
      obtain ⟨whole, named⟩ := whole_of_fileName last
      have upper : (Location.mk (above ++ [last])).text
          = String.join (above.map fun name => "/" ++ name.text) ++ "/" ++ last.text := by
        cases above <;> simp [text, String.join_append, String.append_assoc]
      have unfinished : (Location.mk (above ++ [last])).toPathBuf.text.toList.getLast?
          ≠ some '/' := by
        intro slash
        have tail : last.text.toList ≠ [] := by simpa using named
        simp only [toPathBuf, upper, String.toList_append] at slash
        rw [List.getLast?_append_of_ne_nil _ tail] at slash
        exact whole (List.mem_of_getLast? slash)
      rw [PathBuf.join_of_open (by simp [toPathBuf, upper]) unfinished]
      simp only [toPathBuf, upper, spelled]
      simp [String.join_append, String.append_assoc]

theorem components_toPathBuf (location : Location)
    : location.toPathBuf.components
      = .rootDir :: location.names.map fun name => .normal name.text := by
  obtain ⟨names⟩ := location
  induction names using List.reverseRecOn with
  | nil => decide
  | append_singleton above name ih =>
      rw [toPathBuf_below, PathBuf.components_join _ name.valid, ih]
      simp

theorem ofNames_toPathBuf (location : Location) : ofNames location.toPathBuf = location := by
  have named (name : FileName) : FileName.ofText name.text = some name := by
    simp [FileName.ofText, name.valid]
  simp [ofNames, components_toPathBuf, List.filterMap_map, named]

theorem ofNames_congr {path other : PathBuf} (same : path.components = other.components)
    : ofNames path = ofNames other := by
  rw [ofNames, ofNames, same]

theorem eq_of_components {location other : Location}
    (same : location.toPathBuf.components = other.toPathBuf.components) : location = other := by
  rw [← ofNames_toPathBuf location, ofNames_congr same, ofNames_toPathBuf]

theorem named_of_fileName (name : FileName) : name.text.toList ≠ [] ∧ name.text.toList ≠ ['.'] := by
  have valid := name.valid
  simp only [isFileName, Bool.and_eq_true, bne_iff_ne] at valid
  obtain ⟨⟨⟨blank, dot⟩, -⟩, -⟩ := valid
  exact ⟨fun empty => blank (String.toList_injective empty),
    fun same => dot (String.toList_injective same)⟩

/-- A separator in front of each name makes the names the pieces, behind an empty one. -/
theorem splitSlashes_names (name : FileName) (names : List FileName)
    : PathBuf.splitSlashes ((name :: names).flatMap fun name => '/' :: name.text.toList)
      = [] :: (name :: names).map fun name => name.text.toList := by
  have whole := (whole_of_fileName name).1
  have root (text : List Char)
      : PathBuf.splitSlashes ('/' :: text) = [] :: PathBuf.splitSlashes text := rfl
  induction names generalizing name with
  | nil => simp [root, PathBuf.splitSlashes_of_whole whole]
  | cons next names ih =>
      have later := ih next (whole_of_fileName next).1
      rw [List.flatMap_cons, List.cons_append, root] at later ⊢
      rw [List.flatMap_cons, List.cons_append, PathBuf.splitSlashes_append_slash whole,
        List.cons.inj later |>.2]
      rfl

theorem toList_text {names : List FileName} (nonempty : names ≠ [])
    : (Location.mk names).text.toList = names.flatMap fun name => '/' :: name.text.toList := by
  have spelled : (Location.mk names).text
      = String.join (names.map fun name => "/" ++ name.text) := by
    cases names with
    | nil => exact absurd rfl nonempty
    | cons => rfl
  rw [spelled, String.toList_join, List.flatMap_map]
  simp

theorem splitSlashes_toPathBuf {names : List FileName} (nonempty : names ≠ [])
    : PathBuf.splitSlashes (Location.mk names).toPathBuf.text.toList
      = [] :: names.map fun name => name.text.toList := by
  obtain ⟨name, names, rfl⟩ := List.exists_cons_of_ne_nil nonempty
  rw [toPathBuf, toList_text nonempty, splitSlashes_names]

theorem trimPieces_names (names : List FileName)
    : PathBuf.trimPieces (names.map fun name => name.text.toList)
      = names.map fun name => name.text.toList := by
  cases names using List.reverseRecOn with
  | nil => rfl
  | append_singleton above last =>
      have named := named_of_fileName last
      simp [PathBuf.trimPieces, named]

theorem intercalate_names (names : List FileName)
    : List.intercalate ['/'] ([] :: names.map fun name => name.text.toList)
      = names.flatMap fun name => '/' :: name.text.toList := by
  have behind (piece : List Char) : List.intercalate ['/']
      (piece :: names.map fun name => name.text.toList)
      = piece ++ names.flatMap fun name => '/' :: name.text.toList := by
    induction names generalizing piece with
    | nil => simp [List.intercalate]
    | cons name names ih =>
        have later := ih name.text.toList
        simp only [List.intercalate, List.map_cons, List.intersperse_cons_cons,
          List.flatten_cons] at later ⊢
        simp [later]
  exact behind []

/-- The parent of a canonical spelling is the canonical spelling of the location above. -/
theorem parent_toPathBuf (above : List FileName) (name : FileName)
    : (Location.mk (above ++ [name])).toPathBuf.parent = some (Location.mk above).toPathBuf := by
  have nonempty : above ++ [name] ≠ [] := List.append_ne_nil_of_right_ne_nil _ (by simp)
  unfold PathBuf.parent
  rw [splitSlashes_toPathBuf nonempty]
  simp only [trimPieces_names]
  split
  next none => simp at none
  next =>
    rw [← List.map_dropLast, List.dropLast_concat, trimPieces_names]
    cases above with
    | nil => rfl
    | cons first above =>
        have text := toList_text (List.cons_ne_nil first above)
        rw [← intercalate_names] at text
        exact congrArg some (congrArg PathBuf.mk (by rw [← text, String.ofList_toList]))

theorem fileName_toPathBuf (above : List FileName) (name : FileName)
    : (Location.mk (above ++ [name])).toPathBuf.fileName = some name.text := by
  rw [PathBuf.fileName, components_toPathBuf, List.map_append, ← List.cons_append]
  exact PathBuf.lastName_concat _ _

end StorageBallast.Location

namespace StorageBallast.Texts

variable {separator : Char}

/-- Cutting at the first separator finds the decomposition whose front is free of it. -/
theorem splitOnce_eq_some {text front back : List Char}
    : splitOnce separator text = some (front, back)
      ↔ separator ∉ front ∧ text = front ++ separator :: back := by
  induction text generalizing front with
  | nil => simp [splitOnce]
  | cons c rest ih =>
      by_cases same : c = separator
      · cases front with
        | nil => simp [splitOnce, same]
        | cons d front =>
            simp only [splitOnce, same, if_true, Option.some.injEq, Prod.mk.injEq]
            grind
      · cases front with
        | nil => simp [splitOnce, same]
        | cons d front =>
            have later := @ih front
            simp only [splitOnce, same, if_false, Option.map_eq_some_iff]
            grind

theorem splitOnce_eq_none {text : List Char} (free : separator ∉ text)
    : splitOnce separator text = none := by
  cases cut : splitOnce separator text with
  | none => rfl
  | some parts =>
      obtain ⟨_, rfl⟩ := splitOnce_eq_some.mp cut
      exact absurd (List.mem_append_right _ List.mem_cons_self) free

theorem startsWith_iff {text start : String}
    : startsWith text start = true ↔ start.toList <+: text.toList := by
  simp [startsWith]

theorem stripPrefix_eq_some {text start rest : String}
    : stripPrefix text start = some rest ↔ text.toList = start.toList ++ rest.toList := by
  unfold stripPrefix
  split
  next starts =>
    obtain ⟨tail, whole⟩ := startsWith_iff.mp starts
    rw [← whole]
    simp only [List.drop_left, Option.some.injEq, List.append_cancel_left_eq]
    constructor
    · rintro rfl
      simp
    · rintro rfl
      simp
  next differs =>
    simp only [reduceCtorEq, false_iff]
    intro whole
    exact differs (startsWith_iff.mpr ⟨rest.toList, whole.symm⟩)

/-- The part before the last separator, as `str::rfind` finds it. -/
def beforeLast (separator : Char) (text : List Char) : Option (List Char) :=
  match text.reverse.dropWhile (· ≠ separator) with
  | [] => none
  | _ :: front => some front.reverse

theorem beforeLast_eq_some {text front : List Char}
    : beforeLast separator text = some front
      ↔ ∃ name, text = front ++ separator :: name ∧ separator ∉ name := by
  have split := List.takeWhile_append_dropWhile (p := (· ≠ separator)) (l := text.reverse)
  constructor
  · intro cut
    unfold beforeLast at cut
    split at cut
    next => cases cut
    next last rest same =>
      obtain rfl := Option.some.inj cut
      have head := List.head?_dropWhile_not (· ≠ separator) text.reverse
      rw [same] at head split
      have here : last = separator := by simpa using head
      rw [here] at split
      refine ⟨(text.reverse.takeWhile (· ≠ separator)).reverse, ?_, fun member => ?_⟩
      · apply List.reverse_injective
        rw [List.reverse_append, List.reverse_cons, List.reverse_reverse, List.reverse_reverse,
          List.append_assoc, List.singleton_append, split]
      · have passed := List.mem_takeWhile_imp (List.mem_reverse.mp member)
        simp at passed
  · rintro ⟨name, rfl, whole⟩
    have passed : ∀ c ∈ name.reverse, decide (c ≠ separator) = true := by
      intro c member
      have other : c ≠ separator := fun same => whole (same ▸ List.mem_reverse.mp member)
      exact decide_eq_true other
    have skipped : (front ++ separator :: name).reverse.dropWhile (· ≠ separator)
        = separator :: front.reverse := by
      rw [List.reverse_append, List.reverse_cons, List.append_assoc,
        List.dropWhile_append_of_pos passed]
      simp
    rw [beforeLast, skipped]
    simp

theorem beforeLast_eq_none {text : List Char}
    : beforeLast separator text = none ↔ separator ∉ text := by
  have passed : text.reverse.dropWhile (· ≠ separator) = [] ↔ separator ∉ text := by
    rw [List.dropWhile_eq_nil_iff]
    constructor
    · intro other member
      have here := other separator (List.mem_reverse.mpr member)
      simp at here
    · intro whole c member
      exact decide_eq_true fun same => whole (same ▸ List.mem_reverse.mp member)
  rw [← passed, beforeLast]
  split
  next none => exact iff_of_true rfl none
  next some =>
    refine iff_of_false nofun fun none => ?_
    rw [some] at none
    cases none

end StorageBallast.Texts
