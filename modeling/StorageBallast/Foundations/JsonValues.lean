import StorageBallast.Foundations.TomlDocuments

/-! JSON values as they are written and read: records whose absent fields are left out, fields
that are read by their type, and floats, which need not come back as they were written.
-/

namespace StorageBallast

/-- Floats as JSON numbers. -/
class JsonFloat64 (F : Type) where
  /-- The float that is read for the number it was written as. An infinity or the unordered
  value is written as `null` and not read.
  -/
  reread : F → Option F
  isSignNegative : F → Bool
  /-- `f64::round` and the conversion to the nearest `u64`. -/
  roundToU64 : F → UInt64
  /-- `str::parse::<f64>`. -/
  ofText : String → Option F
  /-- The number as it is written. -/
  numeral : F → String

inductive JsonNumber (F : Type) where
  | posInt (n : UInt64)
  | negInt (n : Int)
  | float (x : F)
deriving DecidableEq

inductive JsonValue (F : Type) where
  | null
  | bool (b : Bool)
  | number (n : JsonNumber F)
  | string (text : String)
  | array (items : List (JsonValue F))
  | object (entries : List (String × JsonValue F))

variable {F α : Type}

namespace JsonNumber

def asU64 : JsonNumber F → Option UInt64
  | posInt n => some n
  | _ => none

/-- `as_i64`, from which an unsigned number is made. -/
def asI64 : JsonNumber F → Option Int
  | posInt n => if n.toNat < 2 ^ 63 then some n.toNat else none
  | negInt n => some n
  | float _ => none

def asF64 [Float64 F] : JsonNumber F → F
  | posInt n => Float64.ofNat n.toNat
  | negInt n => Float64.neg (Float64.ofNat n.natAbs)
  | float x => x

def toText [JsonFloat64 F] : JsonNumber F → String
  | posInt n => toString n
  | negInt n => toString n
  | float x => JsonFloat64.numeral x

end JsonNumber

namespace JsonValue

section Reread

variable [JsonFloat64 F]

def ofReread (x : F) : JsonValue F :=
  match JsonFloat64.reread x with
  | some y => number (.float y)
  | none => null

/-- A value after it was written and read. -/
def reread : JsonValue F → JsonValue F
  | number (.float x) => ofReread x
  | array items => array (rereadItems items)
  | object entries => object (rereadEntries entries)
  | value => value
where
  rereadItems : List (JsonValue F) → List (JsonValue F)
    | [] => []
    | item :: rest => reread item :: rereadItems rest
  rereadEntries : List (String × JsonValue F) → List (String × JsonValue F)
    | [] => []
    | (name, value) :: rest => (name, reread value) :: rereadEntries rest

theorem rereadEntries_eq_map (entries : List (String × JsonValue F))
    : reread.rereadEntries entries
      = entries.map fun entry => (entry.1, reread entry.2) := by
  induction entries with
  | nil => rfl
  | cons entry rest ih =>
      obtain ⟨name, value⟩ := entry
      rw [reread.rereadEntries, ih, List.map_cons]

end Reread

def get (entries : List (String × JsonValue F)) (key : String) : Option (JsonValue F) :=
  Entries.get key entries.reverse

def asStr : JsonValue F → Option String
  | string text => some text
  | _ => none

def asBool : JsonValue F → Option Bool
  | bool b => some b
  | _ => none

def asU64 : JsonValue F → Option UInt64
  | number n => n.asU64
  | _ => none

def asF64 [Float64 F] : JsonValue F → Option F
  | number n => some n.asF64
  | _ => none

def asUnitVariant : JsonValue F → Option String
  | string text => some text
  | object [(name, null)] => some name
  | _ => none

/-- The fields of a record, which may be given by name or in their order. No field is given
twice.
-/
def recordFields (names : List String) : JsonValue F → Option (List (String × JsonValue F))
  | object entries =>
      if ((entries.map Prod.fst).filter (· ∈ names)).Nodup then some entries else none
  | array items => if items.length = names.length then some (names.zip items) else none
  | _ => none

def requiredField (entries : List (String × JsonValue F)) (decode : JsonValue F → Option α)
    (key : String) : Option α := (get entries key).bind decode

/-- What may be `null`. -/
def orNull (decode : JsonValue F → Option α) : JsonValue F → Option (Option α)
  | null => some none
  | value => (decode value).map some

def optionalField (entries : List (String × JsonValue F)) (decode : JsonValue F → Option α)
    (key : String) : Option (Option α) :=
  match get entries key with
  | none => some none
  | some value => orNull decode value

def present (fields : List (String × Option (JsonValue F))) : List (String × JsonValue F) :=
  fields.filterMap fun field => field.2.map (field.1, ·)

variable {fields : List (String × Option (JsonValue F))} {key : String}

theorem present_fst_sublist (fields : List (String × Option (JsonValue F)))
    : ((present fields).map Prod.fst).Sublist (fields.map Prod.fst) := by
  induction fields with
  | nil => exact List.Sublist.slnil
  | cons field rest ih =>
      obtain ⟨name, value⟩ := field
      cases value with
      | none => exact ih.cons name
      | some value => exact ih.cons_cons name

variable {entries : List (String × JsonValue F)}

theorem recordFields_of_nodup (distinct : (entries.map Prod.fst).Nodup) (names : List String)
    : recordFields names (object entries) = some entries :=
  if_pos (distinct.filter _)

theorem optionalField_eq {decode : JsonValue F → Option α}
    {β : Type} {written : Option β} {write : β → JsonValue F} {back : β → Option α}
    (found : get entries key = written.map write)
    (reads : ∀ b, orNull decode (write b) = some (back b))
    : optionalField entries decode key = some (written.bind back) := by
  rw [optionalField, found]
  cases written with
  | none => rfl
  | some b => exact reads b

theorem optionalField_eq_self
    {decode : JsonValue F → Option α} {written : Option α} {write : α → JsonValue F}
    (found : get entries key = written.map write)
    (reads : ∀ a, orNull decode (write a) = some (some a))
    : optionalField entries decode key = some written := by
  rw [optionalField_eq found reads]
  cases written <;> rfl

theorem entries_get_eq_none {υ : Type} {entries : List (String × υ)}
    (absent : key ∉ entries.map Prod.fst) : Entries.get key entries = none := by
  induction entries with
  | nil => rfl
  | cons entry rest ih =>
      rw [List.map_cons, List.mem_cons, not_or] at absent
      rw [Entries.get, if_neg (Ne.symm absent.1), ih absent.2]

/-- A field that is left out is absent from what is written, by induction on the fields. -/
theorem entries_get_present (distinct : (fields.map Prod.fst).Nodup)
    : Entries.get key (present fields) = (Entries.get key fields).join := by
  induction fields with
  | nil => rfl
  | cons field rest ih =>
      obtain ⟨name, value⟩ := field
      obtain ⟨fresh, distinct⟩ := List.nodup_cons.mp distinct
      have later := ih distinct
      cases value with
      | some value =>
          change Entries.get key ((name, value) :: present rest) = _
          rw [Entries.get, Entries.get, later]
          split <;> rfl
      | none =>
          change Entries.get key (present rest) = _
          rw [Entries.get, later]
          split_ifs with same
          · subst same
            rw [entries_get_eq_none fresh]
            rfl
          · rfl

/-- The order of fields does not matter where no name is repeated. -/
theorem get_present (distinct : (fields.map Prod.fst).Nodup)
    : get (present fields) key = (Entries.get key fields.reverse).join := by
  have reversed : (present fields).reverse = present fields.reverse :=
    (List.filterMap_reverse ..).symm
  rw [get, reversed, entries_get_present]
  rwa [List.map_reverse, List.nodup_reverse]

theorem entries_get_map_snd {υ φ : Type} (f : υ → φ) (entries : List (String × υ))
    : Entries.get key (entries.map fun entry => (entry.1, f entry.2))
      = (Entries.get key entries).map f := by
  induction entries with
  | nil => rfl
  | cons entry rest ih =>
      rw [List.map_cons, Entries.get, Entries.get, ih]
      split <;> rfl

section Reread

variable [JsonFloat64 F]

theorem get_rereadEntries (entries : List (String × JsonValue F))
    : get (reread.rereadEntries entries) key = (get entries key).map reread := by
  rw [rereadEntries_eq_map, get, ← List.map_reverse, entries_get_map_snd, get]

theorem rereadEntries_fst (entries : List (String × JsonValue F))
    : (reread.rereadEntries entries).map Prod.fst = entries.map Prod.fst := by
  rw [rereadEntries_eq_map, List.map_map]
  rfl

theorem recordFields_reread (distinct : (fields.map Prod.fst).Nodup) (names : List String)
    : recordFields names (reread (object (present fields)))
      = some (reread.rereadEntries (present fields)) := by
  refine recordFields_of_nodup ?_ names
  rw [rereadEntries_fst]
  exact distinct.sublist (present_fst_sublist fields)

theorem get_reread_present (distinct : (fields.map Prod.fst).Nodup)
    : get (reread.rereadEntries (present fields)) key
      = (Entries.get key fields.reverse).join.map reread := by
  rw [get_rereadEntries, get_present distinct]

theorem orNull_asF64_ofReread [Float64 F] (x : F)
    : orNull asF64 (ofReread x) = some (JsonFloat64.reread x) := by
  unfold ofReread
  cases JsonFloat64.reread x <;> rfl

end Reread

end JsonValue

/-- Values as texts, `serde_json::to_string` and `serde_json::from_str`. -/
structure JsonText (F : Type) where
  toString : JsonValue F → String
  fromStr : String → Option (JsonValue F)

/-- The text of a record is a line in braces, and the record is read from it, up to floats
that do not come back.
-/
structure JsonText.Transcribes [JsonFloat64 F] (text : JsonText F) (value : JsonValue F)
    : Prop where
  braced : ∃ inner, text.toString value = "\x7b" ++ inner ++ "\x7d"
  oneLine : 10 ∉ Texts.bytes (text.toString value)
  rereads : text.fromStr (text.toString value) = some value.reread

end StorageBallast
