import StorageBallast.Foundations.Texts
import StorageBallast.Foundations.TomlDocuments

/-! The values of a document by their paths, and typed reading: the shape of a configuration
says which fields it has and how their values are written. Fields without a shape are ignored.
-/

namespace StorageBallast

variable {F : Type}

namespace TomlValue

def valueAt : TomlValue F → List String → Option (TomlValue F)
  | value, [] => some value
  | .table entries, part :: rest => (Entries.get part entries).bind fun child => child.valueAt rest
  | _, _ :: _ => none

def put (value root : TomlValue F) (path : List String) : TomlValue F :=
  (setAt value root path).toOption.getD root

def Apart (path other : List String) : Prop := ¬ path <+: other ∧ ¬ other <+: path

theorem valueAt_append (root : TomlValue F) (path rest : List String)
    : root.valueAt (path ++ rest) = (root.valueAt path).bind fun value => value.valueAt rest := by
  induction path generalizing root with
  | nil => simp [valueAt]
  | cons part path ih =>
      cases root with
      | table entries =>
          simp only [List.cons_append, valueAt, Option.bind_assoc]
          exact congrArg _ (funext ih)
      | string _ | integer _ | float _ | boolean _ | datetime _ | array _ => rfl

/-- What a document is after a value was written: the value is at the path, every path apart
from it leads where it led, and all above it are tables, as those were that existed.
-/
structure Written (value root new : TomlValue F) (path : List String) : Prop where
  holds : new.valueAt path = some value
  frame (other : List String) : Apart path other → new.valueAt other = root.valueAt other
  above (up : List String) : up <+: path → up ≠ path
    → (∃ entries, new.valueAt up = some (.table entries))
      ∧ ∀ old, root.valueAt up = some old → ∃ entries, old = .table entries

theorem setAt_written {value root new : TomlValue F} {path : List String}
    (set : setAt value root path = .ok new)
    : Written value root new path := by
  induction path generalizing root new with
  | nil => cases root <;> cases set
  | cons part rest ih =>
      cases root with
      | string _ | integer _ | float _ | boolean _ | datetime _ | array _ =>
          cases rest <;> cases set
      | table entries =>
          -- The child is written like a document of its own; a missing one is an empty table.
          have step : ∃ child, new = .table (Entries.insert part child entries)
              ∧ ((rest = [] ∧ child = value)
                ∨ Written value ((Entries.get part entries).getD (.table [])) child rest) := by
            cases rest with
            | nil =>
                cases set
                exact ⟨value, rfl, .inl ⟨rfl, rfl⟩⟩
            | cons next more =>
                obtain ⟨child, written, made⟩ := Checks.bind_eq_ok.mp set
                cases made
                exact ⟨child, rfl, .inr (ih written)⟩
          obtain ⟨child, rfl, below⟩ := step
          refine ⟨?_, fun other apart => ?_, fun up before proper => ?_⟩
          · rcases below with ⟨rfl, rfl⟩ | below
            · simp [valueAt]
            · simp [valueAt, below.holds]
          · cases other with
            | nil => exact absurd List.nil_prefix apart.2
            | cons first more =>
                by_cases same : first = part
                · subst same
                  have apart' : Apart rest more :=
                    ⟨fun under => apart.1 ((List.prefix_cons_inj _).mpr under),
                      fun under => apart.2 ((List.prefix_cons_inj _).mpr under)⟩
                  rcases below with ⟨rfl, -⟩ | below
                  · exact absurd List.nil_prefix apart'.1
                  · simp only [valueAt, Entries.get_insert_self, Option.bind_some,
                      below.frame more apart']
                    cases found : Entries.get first entries with
                    | some old => rfl
                    | none =>
                        cases more with
                        | nil => exact absurd List.nil_prefix apart'.2
                        | cons _ _ => rfl
                · simp [valueAt, same]
          · cases up with
            | nil => exact ⟨⟨_, rfl⟩, fun old same => ⟨entries, (Option.some.inj same).symm⟩⟩
            | cons first more =>
                obtain ⟨rfl, before'⟩ := List.cons_prefix_cons.mp before
                have proper' : more ≠ rest := fun same => proper (by rw [same])
                rcases below with ⟨rfl, -⟩ | below
                · exact absurd (List.prefix_nil.mp before') proper'
                · obtain ⟨tables, olds⟩ := below.above more before' proper'
                  refine ⟨by simpa [valueAt] using tables, fun old found => olds old ?_⟩
                  simp only [valueAt] at found
                  obtain ⟨child', known, found⟩ := Option.bind_eq_some_iff.mp found
                  rw [known]
                  exact found

theorem valueAt_put_of_apart {value root : TomlValue F} {path other : List String}
    (apart : Apart path other)
    : (put value root path).valueAt other = root.valueAt other := by
  unfold put
  cases set : setAt value root path with
  | error reason => rfl
  | ok new => exact (setAt_written set).frame other apart

theorem valueAt_put_self {value root old : TomlValue F} {path : List String}
    (found : root.valueAt path = some old) (below : path ≠ [])
    : (put value root path).valueAt path = some value := by
  have set : ∃ new, setAt value root path = .ok new := by
    induction path generalizing root with
    | nil => exact absurd rfl below
    | cons part rest ih =>
        cases root with
        | string _ | integer _ | float _ | boolean _ | datetime _ | array _ => cases found
        | table entries =>
            cases rest with
            | nil => exact ⟨_, rfl⟩
            | cons next more =>
                obtain ⟨child, known, found⟩ := Option.bind_eq_some_iff.mp found
                obtain ⟨new, set⟩ := ih found (List.cons_ne_nil _ _)
                exact ⟨.table (Entries.insert part new entries),
                  by simp only [setAt, known, Option.getD_some, set]; rfl⟩
  obtain ⟨new, set⟩ := set
  simpa [put, set, Except.toOption] using (setAt_written set).holds

end TomlValue

inductive FieldKind where
  | bool
  | unsigned (bits : Nat)
  | float
  | text
  | name (accepted : List String)
  | texts
deriving DecidableEq

open TomlValue in
/-- The field's value that a document's value is read as. -/
def FieldKind.decode [Float64 F] : FieldKind → TomlValue F → Option (TomlValue F)
  | bool, value => (asBool value).map .boolean
  | unsigned bits, value => (asUnsigned bits value).map fun (n : Nat) => .integer n
  | float, value => (asF64 value).map .float
  | text, value => (asString value).map .string
  | name accepted, value => ((asString value).filter (· ∈ accepted)).map .string
  | texts, value => (asStrings value).map fun items => .array (items.map .string)

inductive Shape where
  | ignored
  | field (kind : FieldKind)
  | table (fields : String → Shape)

namespace Shape

def isField : Shape → Bool
  | .field _ => true
  | _ => false

theorem isField_iff {shape : Shape} : shape.isField = true ↔ ∃ kind, shape = .field kind := by
  cases shape <;> simp [isField]

def under : Shape → List String → Shape
  | shape, [] => shape
  | .table fields, part :: rest => (fields part).under rest
  | _, _ :: _ => .ignored

def readEntries {ε υ υ' : Type} (read : String → υ → Except ε υ') (entries : Entries υ)
    : Except ε (Entries υ') :=
  entries.mapM fun (key, value) => do pure (key, ← read key value)

theorem forall₂_of_readEntries {ε υ υ' : Type} {read : String → υ → Except ε υ'}
    {entries : Entries υ} {typed : Entries υ'} (reads : readEntries read entries = .ok typed)
    : List.Forall₂ (fun entry entry' => entry'.1 = entry.1 ∧ read entry.1 entry.2 = .ok entry'.2)
        entries typed := by
  induction entries generalizing typed with
  | nil =>
      cases reads
      exact .nil
  | cons entry rest ih =>
      rw [readEntries, List.mapM_cons] at reads
      obtain ⟨first, readFirst, reads⟩ := Checks.bind_eq_ok.mp reads
      obtain ⟨value, readValue, made⟩ := Checks.bind_eq_ok.mp readFirst
      obtain ⟨more, readRest, made'⟩ := Checks.bind_eq_ok.mp reads
      cases made
      cases made'
      exact .cons ⟨rfl, readValue⟩ (ih readRest)

theorem get_of_readEntries {ε υ υ' : Type} {read : String → υ → Except ε υ'}
    {entries : Entries υ} {typed : Entries υ'} {key : String} {value : υ}
    (reads : readEntries read entries = .ok typed) (found : entries.get key = some value)
    : ∃ value', read key value = .ok value' ∧ typed.get key = some value' := by
  have pairs := forall₂_of_readEntries reads
  clear reads
  induction pairs with
  | nil => cases found
  | @cons entry entry' rest typed first _ ih =>
      obtain ⟨name, old⟩ := entry
      obtain ⟨name', new⟩ := entry'
      obtain ⟨rfl, readFirst⟩ := first
      simp only [Entries.get] at found ⊢
      split_ifs at found ⊢ with same
      · cases found
        exact ⟨new, same ▸ readFirst, rfl⟩
      · exact ih found

theorem exists_of_readEntries {ε υ υ' : Type} {read : String → υ → Except ε υ'}
    {entries : Entries υ} {typed : Entries υ'} {key : String} {value' : υ'}
    (reads : readEntries read entries = .ok typed) (member : (key, value') ∈ typed)
    : ∃ value, (key, value) ∈ entries ∧ read key value = .ok value' := by
  have pairs := forall₂_of_readEntries reads
  clear reads
  induction pairs with
  | nil => cases member
  | @cons entry entry' rest typed first _ ih =>
      obtain ⟨name, old⟩ := entry
      rcases List.mem_cons.mp member with rfl | member
      · obtain ⟨rfl, readFirst⟩ := first
        exact ⟨old, .head _, readFirst⟩
      · obtain ⟨value, listed, reads⟩ := ih member
        exact ⟨value, .tail _ listed, reads⟩

/-- Read a document. What does not have the shape of a field is refused by the field's name. -/
def read [Float64 F] : Shape → String → TomlValue F → Except String (TomlValue F)
  | .ignored, _, value => .ok value
  | .field kind, name, value => (kind.decode value).elim (.error name) .ok
  | .table fields, _, .table entries => do
      let typed ← readEntries (fun key value => (fields key).read key value) entries
      pure (.table typed)
  | .table _, name, _ => .error name

theorem eq_of_fields {shape : Shape} {kind other : FieldKind} {short long : List String}
    (field : shape.under long = .field kind) (field' : shape.under short = .field other)
    (before : short <+: long)
    : short = long := by
  induction short generalizing shape long with
  | nil =>
      obtain rfl : shape = .field other := by rwa [under] at field'
      cases long with
      | nil => rfl
      | cons part rest => cases field
  | cons part rest ih =>
      obtain ⟨more, rfl⟩ := before
      cases shape with
      | table fields => exact congrArg (part :: ·) (ih field field' (List.prefix_append rest more))
      | ignored => cases field'
      | field _ => cases field'

theorem apart_of_fields {shape : Shape} {kind other : FieldKind} {path path' : List String}
    (field : shape.under path = .field kind) (field' : shape.under path' = .field other)
    (ne : path ≠ path')
    : TomlValue.Apart path path' :=
  ⟨fun before => ne (eq_of_fields field' field before),
    fun before => ne (eq_of_fields field field' before).symm⟩

theorem read_field [Float64 F] {kind : FieldKind} {name : String} {value v : TomlValue F}
    (read : (Shape.field kind).read name value = .ok v)
    : kind.decode value = some v := by
  rw [Shape.read] at read
  cases decoded : kind.decode value with
  | none =>
      rw [decoded] at read
      cases read
  | some _ =>
      rw [decoded] at read
      cases read
      rfl

/-- What a document has at a place that is known is read there by its shape. -/
theorem read_valueAt [Float64 F] {shape : Shape} {name : String} {root typed value : TomlValue F}
    {path : List String} (read : shape.read name root = .ok typed)
    (known : shape.under path ≠ .ignored) (found : root.valueAt path = some value)
    : ∃ name v, (shape.under path).read name value = .ok v ∧ typed.valueAt path = some v := by
  induction path generalizing shape name root typed with
  | nil =>
      obtain rfl : root = value := by simpa [TomlValue.valueAt] using found
      exact ⟨name, typed, by rwa [under], by simp [TomlValue.valueAt]⟩
  | cons part rest ih =>
      cases shape with
      | ignored | field _ => exact absurd rfl known
      | table fields =>
          cases root with
          | string _ | integer _ | float _ | boolean _ | datetime _ | array _ => cases found
          | table entries =>
              rw [Shape.read] at read
              obtain ⟨typed, reads, made⟩ := Checks.bind_eq_ok.mp read
              cases made
              obtain ⟨child, there, found⟩ := Option.bind_eq_some_iff.mp found
              obtain ⟨child', readChild, there'⟩ := get_of_readEntries reads there
              obtain ⟨name, v, readValue, found'⟩ := ih readChild known found
              exact ⟨name, v, readValue, by simp [TomlValue.valueAt, there', found']⟩

end Shape

end StorageBallast
