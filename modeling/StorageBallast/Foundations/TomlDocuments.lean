import StorageBallast.Foundations.Checks
import StorageBallast.Foundations.DecimalTexts
import Mathlib.Data.List.Basic

/-! TOML documents as the values that they parse to: tables with ordered keys, fields that
are read with a default, and writing along a dotted path.
-/

namespace StorageBallast

abbrev Entries (υ : Type) := List (String × υ)

namespace Entries

variable {υ : Type} {key other : String} {value : υ}

def get (key : String) : Entries υ → Option υ
  | [] => none
  | (name, value) :: rest => if name = key then some value else get key rest

def insert (key : String) (value : υ) : Entries υ → Entries υ
  | [] => [(key, value)]
  | (name, old) :: rest =>
      if name = key then (key, value) :: rest
      else if key < name then (key, value) :: (name, old) :: rest
      else (name, old) :: insert key value rest

theorem mem_of_get {entries : Entries υ} (found : entries.get key = some value)
    : (key, value) ∈ entries := by
  induction entries with
  | nil => cases found
  | cons entry rest ih =>
      rw [get] at found
      split_ifs at found with same
      · cases found
        exact same ▸ List.mem_cons_self
      · exact List.mem_cons_of_mem _ (ih found)

@[simp] theorem get_insert_self (entries : Entries υ)
    : get key (insert key value entries) = some value := by
  induction entries with
  | nil => simp [insert, get]
  | cons entry rest ih =>
      obtain ⟨name, old⟩ := entry
      unfold insert
      split_ifs with same before
      · simp [get]
      · simp [get]
      · rw [get, if_neg same, ih]

@[simp] theorem get_insert_of_ne (entries : Entries υ) (ne : other ≠ key)
    : get other (insert key value entries) = get other entries := by
  induction entries with
  | nil => simp [insert, get, ne.symm]
  | cons entry rest ih =>
      obtain ⟨name, old⟩ := entry
      unfold insert
      split_ifs with same before
      · subst same
        simp [get, ne.symm]
      · simp [get, ne.symm]
      · simp only [get, ih]

end Entries

inductive TomlValue (F : Type) where
  | string (text : String)
  | integer (n : Int)
  | float (x : F)
  | boolean (b : Bool)
  | datetime (text : String)
  | array (items : List (TomlValue F))
  | table (entries : List (String × TomlValue F))

abbrev TomlTable (F : Type) := Entries (TomlValue F)

variable {F α : Type}

namespace TomlValue

def asBool : TomlValue F → Option Bool
  | boolean b => some b
  | _ => none

def asUnsigned (bits : Nat) : TomlValue F → Option Nat
  | integer n => if 0 ≤ n ∧ n < 2 ^ bits then some n.toNat else none
  | _ => none

def asF64 [Float64 F] : TomlValue F → Option F
  | float x => some x
  | integer n =>
      some (if 0 ≤ n then Float64.ofNat n.toNat else Float64.neg (Float64.ofNat n.natAbs))
  | _ => none

def asString : TomlValue F → Option String
  | string text => some text
  | _ => none

def asStrings : TomlValue F → Option (List String)
  | array items => items.mapM asString
  | _ => none

end TomlValue

namespace TomlTable

variable {section_ key other : String} {decode : TomlValue F → Option α} {default : α}
  {value : TomlValue F} {table : TomlTable F}

/-- The field of a section, with its default where it is absent; what does not decode is
refused by its name.
-/
def field (section_ : String) (table : TomlTable F) (key : String)
    (decode : TomlValue F → Option α) (default : α)
    : Except String α :=
  match table.get key with
  | none => .ok default
  | some value => (decode value).elim (.error (section_ ++ "." ++ key)) .ok

def sectionTable (root : TomlTable F) (name : String) : Except String (TomlTable F) :=
  match root.get name with
  | none => .ok []
  | some (.table entries) => .ok entries
  | some _ => .error name

theorem field_insert_self {a : α} (decodes : decode value = some a)
    : field section_ (Entries.insert key value table) key decode default = .ok a := by
  simp [field, decodes]

theorem field_insert_of_ne (ne : other ≠ key)
    : field section_ (Entries.insert key value table) other decode default
      = field section_ table other decode default := by
  simp [field, ne]

theorem sectionTable_insert_self {entries : TomlTable F}
    : sectionTable (Entries.insert key (.table entries) table) key = .ok entries := by
  simp [sectionTable]

theorem sectionTable_insert_of_ne (ne : other ≠ key)
    : sectionTable (Entries.insert key value table) other = sectionTable table other := by
  simp [sectionTable, ne]

end TomlTable

def dottedParts (path : String) : List String :=
  (path.toList.splitOn '.').map String.ofList

/-- Write a value below a path of keys. Tables that are missing on the way are made. -/
def TomlValue.setAt (value : TomlValue F) : TomlValue F → List String → Except String (TomlValue F)
  | _, [] => .error "empty config key"
  | .table entries, [key] => .ok (.table (Entries.insert key value entries))
  | _, [_] => .error "parent is not a table"
  | .table entries, part :: rest => do
      let child ← setAt value ((Entries.get part entries).getD (.table [])) rest
      .ok (.table (Entries.insert part child entries))
  | _, part :: _ => .error ("key path component is not a table: " ++ part)

/-- A key of a section is written into the table of the section. -/
theorem TomlValue.setAt_section {value : TomlValue F} {root entries : TomlTable F}
    {section_ key : String} (table : root.sectionTable section_ = .ok entries)
    : setAt value (.table root) [section_, key]
      = .ok (.table (Entries.insert section_ (.table (Entries.insert key value entries)) root))
    := by
  have child : (Entries.get section_ root).getD (.table []) = TomlValue.table entries := by
    unfold TomlTable.sectionTable at table
    split at table
    · rename_i absent
      cases table
      simp [absent]
    · rename_i present
      cases table
      simp [present]
    · cases table
  simp [setAt, child, bind, Except.bind]

end StorageBallast
