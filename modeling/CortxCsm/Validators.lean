/-
# `CortxCsm.Validators` — `csm/core/controllers/validators.py`

`ValidateSchema`, the base class of the schemas of the request bodies: its hook
refuses a body in which some value is blank as a text.  Of the values of a loaded
body only a text can be blank; the text of a number, of a truth value, of a list
or of a dictionary never is.
-/
import CortxCsm.Lib.Schema

namespace CortxCsm

/-- `str.isspace` of one character. -/
def isSpace (c : Char) : Bool :=
  c.toNat ∈ [0x09, 0x0a, 0x0b, 0x0c, 0x0d, 0x1c, 0x1d, 0x1e, 0x1f, 0x20, 0x85, 0xa0, 0x1680,
    0x2000, 0x2001, 0x2002, 0x2003, 0x2004, 0x2005, 0x2006, 0x2007, 0x2008, 0x2009, 0x200a,
    0x2028, 0x2029, 0x202f, 0x205f, 0x3000]

/-- `not text.strip()`. -/
def blank (text : String) : Bool := text.toList.all isSpace

/-- `value is not None and not str(value).strip()`. -/
def emptyValue : Json → Bool
  | .str s => blank s
  | _ => false

/-- `ValidateSchema.invalidate_empty_values`: whether it lets the body pass. -/
def invalidate_empty_values (data : Dict String Json) : Bool :=
  data.rows.all fun item => !emptyValue item.2

theorem invalidate_empty_values_iff {data : Dict String Json} :
    invalidate_empty_values data = true ↔
      ∀ key text, data.get? key = some (.str text) → blank text = false := by
  unfold invalidate_empty_values
  rw [List.all_eq_true]
  constructor
  · intro h key text hget
    have hitem := h (key, .str text) (Table.get?_eq_some.mp hget)
    simpa [emptyValue] using hitem
  · rintro h ⟨key, value⟩ hmem
    cases value with
    | str text => simpa [emptyValue] using h key text (Table.get?_eq_some.mpr hmem)
    | _ => rfl

/-- A field that must be there. -/
def requiredField (name : String) (type : FieldType) (validate : Json → Bool := fun _ => true) :
    SchemaField :=
  ⟨name, name, type, true, validate⟩

/-- A field with `missing=None, allow_none=False`. -/
def optionalField (name : String) (type : FieldType) (validate : Json → Bool := fun _ => true) :
    SchemaField :=
  ⟨name, name, type, false, validate⟩

/-- `validate.OneOf(choices)` on texts. -/
def OneOf (choices : List String) : Json → Bool
  | .str s => s ∈ choices
  | _ => false

/-- A subclass of `ValidateSchema`. -/
def ValidateSchema (fields : Table SchemaField.name) : Schema := ⟨fields, invalidate_empty_values⟩

end CortxCsm
