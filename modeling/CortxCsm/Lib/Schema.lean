/-
# `CortxCsm.Lib.Schema` — loading a JSON body with a declared schema

A schema declares fields; loading a body with it checks and converts each field
and collects the results in a dictionary.  The package that does this is not part
of the program, so it is a parameter (`Marshmallow`), and what its documentation
says about it is a class of laws (`LawfulMarshmallow`):

| | |
| :-- | :-- |
| a declared field that is absent | refused when required, else the value of `missing` |
| a declared field that is null | refused (`allow_none` is false) |
| any other value | converted to the type of the field, then validated |
| a key no field declares | refused, or dropped under `EXCLUDE` |
| the hook of the schema | runs last, on what the fields gave |

`missing` is `None` in every schema this is used for.  `plainMarshmallow` is an
implementation with the laws, for running a loader on given bodies.
-/
import CortxCsm.Lib.Table

/-- What `json.loads` returns; an object is listed with its entries in order. -/
inductive Json
  | null
  | bool (b : Bool)
  | int (n : Int)
  | float (repr : String)
  | str (s : String)
  | arr (items : List Json)
  | obj (entries : List (String × Json))

/-- Whether the value is not `None`. -/
def Json.given : Json → Bool
  | .null => false
  | _ => true

/-! ## Schemas -/

inductive FieldType
  | Str
  | Email
  | Bool
  | Int
  | Dict
  deriving DecidableEq

structure SchemaField where
  name : String
  data_key : String
  type : FieldType
  required : Bool
  validate : Json → Bool

/-- The fields of a schema and its `validates_schema` hook. -/
structure Schema where
  fields : Table SchemaField.name
  validates_schema : Dict String Json → Bool

/-- What is done with keys that no field declares. -/
inductive Unknown
  | RAISE
  | EXCLUDE
  deriving DecidableEq

/-- The messages of a `ValidationError`, by key. -/
abbrev Messages := List (String × List String)

/-- Conversion of one value, `none` where it has the wrong type. -/
class Deserialize where
  deserialize : FieldType → Json → Option Json

export Deserialize (deserialize)

/-- The package. -/
class Marshmallow extends Deserialize where
  load : Schema → Unknown → Json → Except Messages (Dict String Json)

/-- What a field loads from the entries of a body, `none` where it is refused. -/
def SchemaField.load [Deserialize] (field : SchemaField) (entries : List (String × Json)) : Option Json :=
  match entries.lookup field.data_key with
  | none => if field.required then none else some .null
  | some .null => none
  | some value => (deserialize field.type value).filter field.validate

/-- Whether every key of the body is declared, where that matters. -/
def Schema.knows (schema : Schema) (unknown : Unknown) (entries : List (String × Json)) : Prop :=
  unknown = .RAISE → ∀ entry ∈ entries, ∃ field ∈ schema.fields, field.data_key = entry.1

/-- What the documentation says. -/
class LawfulMarshmallow [Marshmallow] : Prop where
  deserialize_str : ∀ {value v : Json}, deserialize .Str value = some v ↔
    ∃ s, value = .str s ∧ v = .str s
  deserialize_int : ∀ n : Int, deserialize .Int (.int n) = some (.int n)
  deserialize_given : ∀ {type : FieldType} {value v : Json},
    deserialize type value = some v → v.given = true
  load_eq_ok : ∀ {schema : Schema} {unknown : Unknown} {value : Json}
    {body : Dict String Json}, Marshmallow.load schema unknown value = .ok body ↔
      ∃ entries, value = .obj entries ∧ schema.knows unknown entries ∧
        body.keys = schema.fields.rows.map SchemaField.name ∧
          (∀ field ∈ schema.fields, ∃ v, field.load entries = some v ∧
            body.get? field.name = some v) ∧
          schema.validates_schema body = true

/-! ## What was loaded -/

section

variable [Deserialize]

/-- A field that is there was converted. -/
theorem SchemaField.load_of_lookup {field : SchemaField} {entries : List (String × Json)} {value v : Json}
    (hlookup : entries.lookup field.data_key = some value) (h : field.load entries = some v) :
    deserialize field.type value = some v ∧ field.validate v = true := by
  unfold SchemaField.load at h
  rw [hlookup] at h
  cases value with
  | null => cases h
  | _ => exact Option.filter_eq_some_iff.mp h

/-- A field that is not there was optional. -/
theorem SchemaField.load_of_absent {field : SchemaField} {entries : List (String × Json)} {v : Json}
    (hlookup : entries.lookup field.data_key = none) (h : field.load entries = some v) :
    field.required = false ∧ v = .null := by
  unfold SchemaField.load at h
  rw [hlookup] at h
  dsimp only at h
  split at h
  · cases h
  · rename_i hr
    exact ⟨Bool.eq_false_iff.mpr hr, (Option.some.inj h).symm⟩

end

section

variable [Marshmallow] [LawfulMarshmallow] {schema : Schema} {unknown : Unknown} {value : Json}
  {body : Dict String Json}

/-- A declared field is in the result. -/
theorem Schema.load_field (h : Marshmallow.load schema unknown value = .ok body) {field : SchemaField}
    (hfield : field ∈ schema.fields) :
    ∃ entries v, value = .obj entries ∧ field.load entries = some v ∧
      body.get? field.name = some v := by
  obtain ⟨entries, rfl, -, -, hfields, -⟩ := LawfulMarshmallow.load_eq_ok.mp h
  obtain ⟨v, hv, hget⟩ := hfields field hfield
  exact ⟨entries, v, rfl, hv, hget⟩

/-- A name no field has is not. -/
theorem Schema.load_undeclared (h : Marshmallow.load schema unknown value = .ok body)
    {name : String} (hname : ∀ field ∈ schema.fields, field.name ≠ name) :
    body.get? name = none := by
  obtain ⟨entries, -, -, hkeys, -, -⟩ := LawfulMarshmallow.load_eq_ok.mp h
  rw [Table.get?_eq_none, hkeys, List.mem_map]
  rintro ⟨field, hmem, hn⟩
  exact hname field hmem hn

/-- A text field that is there is a text. -/
theorem SchemaField.load_str {field : SchemaField} (hstr : field.type = .Str)
    {entries : List (String × Json)} {value v : Json}
    (hlookup : entries.lookup field.data_key = some value) (h : field.load entries = some v) :
    ∃ s, value = .str s ∧ v = .str s := by
  have hd := (SchemaField.load_of_lookup hlookup h).1
  rw [hstr] at hd
  exact LawfulMarshmallow.deserialize_str.mp hd

/-- A required text field of a body that was accepted is a text. -/
theorem Schema.load_required_str (h : Marshmallow.load schema unknown value = .ok body)
    {field : SchemaField} (hfield : field ∈ schema.fields) (hreq : field.required = true)
    (hstr : field.type = .Str) : ∃ s, body.get? field.name = some (.str s) := by
  obtain ⟨entries, v, -, hv, hget⟩ := Schema.load_field h hfield
  cases hlookup : entries.lookup field.data_key with
  | none =>
      have hopt := (SchemaField.load_of_absent hlookup hv).1
      rw [hreq] at hopt
      cases hopt
  | some given =>
      obtain ⟨s, -, rfl⟩ := SchemaField.load_str hstr hlookup hv
      exact ⟨s, hget⟩

end

/-! ## An implementation -/

section Plain

/-- Conversion of values that have the type of the field already. -/
def plainDeserialize : FieldType → Json → Option Json
  | .Str, .str s => some (.str s)
  | .Email, .str s => some (.str s)
  | .Bool, .bool b => some (.bool b)
  | .Int, .int n => some (.int n)
  | .Dict, .obj entries => some (.obj entries)
  | _, _ => none

/-- The refusals of the implementation name no key. -/
def refused (message : String) : Messages := [("_schema", [message])]

local instance plainDeserializer : Deserialize := ⟨plainDeserialize⟩

/-- The fields in order, each with what it loads. -/
def plainBody (schema : Schema) (entries : List (String × Json)) : Dict String Json where
  rows := schema.fields.rows.map fun field => (field.name, (field.load entries).getD .null)
  nodup := by
    rw [List.map_map]
    exact schema.fields.nodup

def plainLoad (schema : Schema) (unknown : Unknown) : Json → Except Messages (Dict String Json)
  | .obj entries =>
      if unknown = .RAISE ∧ ¬ ∀ entry ∈ entries, ∃ field ∈ schema.fields,
          field.data_key = entry.1 then
        .error (refused "Unknown field.")
      else if ¬ ∀ field ∈ schema.fields, (field.load entries).isSome then
        .error (refused "Invalid value.")
      else if schema.validates_schema (plainBody schema entries) then
        .ok (plainBody schema entries)
      else .error (refused "Invalid body.")
  | _ => .error (refused "Invalid input type.")

@[reducible] def plainMarshmallow : Marshmallow := ⟨plainLoad⟩

theorem get?_plainBody {schema : Schema} {entries : List (String × Json)} {field : SchemaField}
    (hfield : field ∈ schema.fields) :
    (plainBody schema entries).get? field.name = some ((field.load entries).getD .null) :=
  Table.get?_eq_some.mpr (List.mem_map.mpr ⟨field, hfield, rfl⟩)

theorem keys_plainBody (schema : Schema) (entries : List (String × Json)) :
    (plainBody schema entries).keys = schema.fields.rows.map SchemaField.name := by
  unfold Table.keys plainBody
  rw [List.map_map]
  rfl

theorem plainDeserialize_given {type : FieldType} {value v : Json}
    (h : plainDeserialize type value = some v) : v.given = true := by
  unfold plainDeserialize at h
  split at h <;> cases h <;> rfl

theorem plainLoad_eq_ok {schema : Schema} {unknown : Unknown} {value : Json}
    {body : Dict String Json} : plainLoad schema unknown value = .ok body ↔
      ∃ entries, value = .obj entries ∧ schema.knows unknown entries ∧
        body.keys = schema.fields.rows.map SchemaField.name ∧
          (∀ field ∈ schema.fields, ∃ v, field.load entries = some v ∧
            body.get? field.name = some v) ∧
          schema.validates_schema body = true := by
  constructor
  · intro h
    cases value with
    | obj entries =>
        simp only [plainLoad] at h
        split at h
        · cases h
        · rename_i hknows
          split at h
          · cases h
          · rename_i hfields
            split at h
            · rename_i hvalid
              cases h
              refine ⟨entries, rfl, fun hu => not_not.mp fun hn => hknows ⟨hu, hn⟩,
                keys_plainBody schema entries, fun field hfield => ?_, hvalid⟩
              obtain ⟨v, hv⟩ := Option.isSome_iff_exists.mp (not_not.mp hfields field hfield)
              refine ⟨v, hv, ?_⟩
              rw [get?_plainBody hfield, hv]
              rfl
            · cases h
    | _ => cases h
  · rintro ⟨entries, rfl, hknows, hkeys, hfields, hvalid⟩
    have hbody : body = plainBody schema entries := by
      refine Table.ext_of_keys (hkeys.trans (keys_plainBody schema entries).symm) ?_
      intro k hk
      rw [hkeys] at hk
      obtain ⟨field, hfield, rfl⟩ := List.mem_map.mp hk
      obtain ⟨v, hv, hget⟩ := hfields field hfield
      rw [hget, get?_plainBody hfield, hv]
      rfl
    simp only [plainLoad]
    rw [if_neg fun h => h.2 (hknows h.1), if_neg, ← hbody, if_pos hvalid]
    intro hn
    refine hn fun field hfield => ?_
    obtain ⟨v, hv, -⟩ := hfields field hfield
    rw [hv]
    rfl

theorem plainMarshmallow_lawful : @LawfulMarshmallow plainMarshmallow :=
  letI := plainMarshmallow
  { deserialize_str := by
      intro value v
      constructor
      · intro h
        cases value with
        | str s => exact ⟨s, rfl, (Option.some.inj h).symm⟩
        | _ => cases h
      · rintro ⟨s, rfl, rfl⟩
        rfl
    deserialize_int := fun _ => rfl
    deserialize_given := plainDeserialize_given
    load_eq_ok := plainLoad_eq_ok }

end Plain
