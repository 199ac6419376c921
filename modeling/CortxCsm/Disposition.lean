/-
# `CortxCsm.Disposition` — reading a Content-Disposition header back

`__parse_multipart_part` cuts the header at every `;` and each directive at every `=`, and
takes the quotes off only then.  A quoted name that holds one of the two is cut as well: a
field called `a; filename=b` is read as the field `a` with a file `b`.

    form-data; name="<field>"
    form-data; name="<field>"; filename="<file>"

**Proved here.**

    what is read has neither character           (`parse_plain`)
    exactly names without them are read back     (`parse_disposition_iff`)
-/
import CortxCsm.Multipart

namespace CortxCsm

namespace Disposition

open CsmView

/-- The header for a field and, if it is a file, for its name. -/
def disposition (fieldname : String) (filename : Option String) : String :=
  "form-data; name=\"" ++ fieldname ++ "\"" ++
    (filename.map fun filename => "; filename=\"" ++ filename ++ "\"").getD ""

/-- The name is not cut. -/
def Plain (name : String) : Prop := ';' ∉ name.toList ∧ '=' ∉ name.toList

instance (name : String) : Decidable (Plain name) := inferInstanceAs (Decidable (_ ∧ _))

/-! ## One directive -/

/-- A directive with its value in quotes. -/
def quoted (name value : String) : String := " " ++ name ++ "=\"" ++ value ++ "\""

theorem toList_quoted (name value : String) :
    (quoted name value).toList = ' ' :: (name.toList ++ '=' :: '"' :: (value.toList ++ ['"'])) := by
  simp [quoted]

theorem not_mem_quoted {name value : String} (hname : ';' ∉ name.toList) (hvalue : Plain value) :
    ';' ∉ (quoted name value).toList := by
  rw [toList_quoted]
  simp [hname, hvalue.1]

/-- What a directive gives holds no `=`, and no character that the directive does not hold. -/
theorem directive_plain {name message text value : String}
    (h : directive name message text = .ok value) (htext : ';' ∉ text.toList) : Plain value := by
  unfold directive at h
  split at h
  · rename_i key quoted hsplit
    split at h
    · cases h
    · cases h
      obtain ⟨rfl, -, hquoted⟩ := Text.split_eq_pair.mp hsplit
      rw [Text.join_pair] at htext
      refine ⟨fun hmem => htext ?_, fun hmem => hquoted (Text.mem_of_mem_strip hmem)⟩
      simp [Text.mem_of_mem_strip hmem]
  · cases h

/-- A directive with a plain value in quotes gives the value. -/
theorem directive_quoted {name value : String} (message : String) (hname : '=' ∉ name.toList)
    (htrim : Text.Trimmed isSpace name) (hvalue : Plain value) (hquote : '"' ∉ value.toList) :
    directive name message (quoted name value) = .ok value := by
  have hsplit : Text.split '=' (quoted name value) = [" " ++ name, "\"" ++ value ++ "\""] := by
    rw [Text.split_eq_pair, Text.join_pair]
    refine ⟨?_, by simpa using hname, by simpa using hvalue.2⟩
    apply String.toList_inj.mp
    rw [toList_quoted]
    simp
  have hkey : Text.strip isSpace (" " ++ name) = name := by
    have h := Text.strip_surrounded (l := [' ']) (r := []) (by simp [isSpace]) (by simp) htrim
    have htext : " " ++ name = String.ofList ([' '] ++ name.toList ++ []) := by
      apply String.toList_inj.mp
      simp
    rw [htext, h]
  have hstrip : Text.strip (· = '"') ("\"" ++ value ++ "\"") = value := by
    have hall : ∀ c ∈ value.toList, decide (c = '"') = false := by
      intro c hc
      exact decide_eq_false fun he => hquote (he ▸ hc)
    have h := Text.strip_surrounded (l := ['"']) (r := ['"']) (by simp) (by simp)
      (Text.trimmed_of_forall hall)
    have htext : "\"" ++ value ++ "\"" = String.ofList (['"'] ++ value.toList ++ ['"']) := by
      apply String.toList_inj.mp
      simp
    rw [htext, h]
  have hne : "\"" ++ value ++ "\"" ≠ "" := by
    intro he
    have hlen := congrArg String.length he
    simp at hlen
  unfold directive
  rw [hsplit]
  simp only [hkey, hstrip, hne, or_false, ne_eq, not_true_eq_false, if_false]

/-! ## The header -/

theorem disposition_eq (fieldname : String) (filename : Option String) :
    disposition fieldname filename =
      Text.join ';' ("form-data" :: quoted "name" fieldname ::
        (filename.map (quoted "filename")).toList) := by
  have hfirst : "form-data; name=\"".toList =
      "form-data".toList ++ (String.singleton ';').toList ++ ' ' :: "name".toList ++ ['=', '"'] := by
    simp
  have hsecond : "; filename=\"".toList =
      (String.singleton ';').toList ++ ' ' :: "filename".toList ++ ['=', '"'] := by
    simp
  apply String.toList_inj.mp
  unfold disposition
  cases filename with
  | none =>
      rw [Option.map_none, Option.getD_none, Option.map_none, Option.toList_none, Text.join_pair]
      simp only [String.toList_append, toList_quoted, hfirst]
      simp
  | some filename =>
      rw [Option.map_some, Option.getD_some, Option.map_some, Option.toList_some,
        Text.join_cons _ _ (List.cons_ne_nil _ _), Text.join_pair]
      simp only [String.toList_append, toList_quoted, hfirst, hsecond]
      simp

theorem split_disposition {fieldname : String} {filename : Option String}
    (hfield : Plain fieldname) (hfile : ∀ g ∈ filename, Plain g) :
    Text.split ';' (disposition fieldname filename) =
      "form-data" :: quoted "name" fieldname :: (filename.map (quoted "filename")).toList := by
  rw [disposition_eq, Text.split_join ?_ (List.cons_ne_nil _ _)]
  intro part hpart
  rcases List.mem_cons.mp hpart with rfl | hpart
  · simp
  · rcases List.mem_cons.mp hpart with rfl | hpart
    · exact not_mem_quoted (by simp) hfield
    · obtain ⟨g, hg, rfl⟩ := Option.map_eq_some_iff.mp (Option.mem_toList.mp hpart)
      exact not_mem_quoted (by simp) (hfile g hg)

/-- Names that are read are parts of parts of the header. -/
theorem parse_plain {field : Field} {fieldname : String} {filename : Option String}
    (h : parse_multipart_part field = .ok (fieldname, filename)) :
    Plain fieldname ∧ ∀ g ∈ filename, Plain g := by
  have hpart : ∀ {i : Nat} {value : String},
      (Text.split ';' (field.content_disposition.getD ""))[i]? = some value →
        ';' ∉ value.toList := by
    intro i value hi
    exact Text.not_mem_of_mem_split (List.mem_of_getElem? hi)
  have hsecond : ';' ∉ (((Text.split ';' (field.content_disposition.getD ""))[1]?).getD "").toList
      := by
    cases hi : (Text.split ';' (field.content_disposition.getD ""))[1]? with
    | none => simp
    | some value => exact hpart hi
  unfold parse_multipart_part at h
  dsimp only at h
  split at h
  · cases h
  split at h
  · cases h
  split at h
  · cases h
  obtain ⟨name, hname, h⟩ := Raising.bind_eq_ok h
  have hplain := directive_plain hname hsecond
  cases hthird : (Text.split ';' (field.content_disposition.getD ""))[2]? with
  | none =>
      simp only [hthird] at h
      obtain ⟨file, hfile, h⟩ := Raising.bind_eq_ok h
      cases hfile
      split at h
      · cases h
      · cases h
        exact ⟨hplain, fun g hg => by cases hg⟩
  | some value =>
      simp only [hthird] at h
      obtain ⟨file, hfile, h⟩ := Raising.bind_eq_ok h
      cases hdirective : directive "filename"
          "Incorrect filename directive in Content-Disposition header" value with
      | error e =>
          rw [hdirective] at hfile
          cases hfile
      | ok g =>
          rw [hdirective] at hfile
          cases hfile
          split at h
          · cases h
          · cases h
            refine ⟨hplain, ?_⟩
            intro g' hg'
            cases hg'
            exact directive_plain hdirective (hpart hthird)

/-- The names of a part are read back. -/
theorem parse_disposition {fieldname content_type : String} {filename : Option String}
    (hct : content_type ≠ "") (hfield : Plain fieldname) (hfile : ∀ g ∈ filename, Plain g)
    (hquote : '"' ∉ fieldname.toList) (hquotes : ∀ g ∈ filename, '"' ∉ g.toList)
    (chunks : List Bytes) :
    parse_multipart_part ⟨some (disposition fieldname filename), some content_type, chunks⟩ =
      .ok (fieldname, filename) := by
  have hsplit := split_disposition hfield hfile
  have hne : disposition fieldname filename ≠ "" := by
    intro he
    rw [he] at hsplit
    have hlen := congrArg List.length hsplit
    simp [Text.split] at hlen
  have hsecond : quoted "name" fieldname ≠ "" := by
    intro he
    have hlen := congrArg String.toList he
    rw [toList_quoted] at hlen
    cases hlen
  have hname : directive "name" "Incorrect fieldname directive in Content-Disposition header"
      (quoted "name" fieldname) = .ok fieldname :=
    directive_quoted _ (by simp) (Text.trimmed_of_forall (by simp [isSpace])) hfield hquote
  unfold parse_multipart_part
  simp only [Option.getD_some, hsplit, if_neg hne, if_neg hsecond, if_neg hct, hname,
    List.head?_cons, List.getElem?_cons_succ, List.getElem?_cons_zero]
  cases filename with
  | none => rfl
  | some g =>
      have hg : directive "filename" "Incorrect filename directive in Content-Disposition header"
          (quoted "filename" g) = .ok g :=
        directive_quoted _ (by simp) (Text.trimmed_of_forall (by simp [isSpace])) (hfile g rfl)
          (hquotes g rfl)
      simp only [Option.map_some, Option.toList_some, List.getElem?_cons_zero, hg]
      rfl

/-- A field name and a file name without quotes are read back exactly if neither holds a `;` or
a `=`. -/
theorem parse_disposition_iff (fieldname : String) (filename : Option String)
    (hquote : '"' ∉ fieldname.toList) (hquotes : ∀ g ∈ filename, '"' ∉ g.toList)
    (content_type : String) (hct : content_type ≠ "") (chunks : List Bytes) :
    parse_multipart_part ⟨some (disposition fieldname filename), some content_type, chunks⟩ =
        .ok (fieldname, filename) ↔
      Plain fieldname ∧ ∀ g ∈ filename, Plain g := by
  constructor
  · intro h
    exact parse_plain h
  · rintro ⟨hfield, hfile⟩
    exact parse_disposition hct hfield hfile hquote hquotes chunks

theorem parse_disposition_iff_firmware :
    parse_multipart_part
        ⟨some (disposition "package" (some "csm 2.0.iso")), some "text/plain", []⟩ =
          .ok ("package", some "csm 2.0.iso") ↔
      Plain "package" ∧ ∀ g ∈ some "csm 2.0.iso", Plain g :=
  parse_disposition_iff "package" (some "csm 2.0.iso") (by decide +kernel) (by decide +kernel)
    "text/plain" (by decide +kernel) []

/-- The header of the field `a; filename=b` is read as that of the field `a` with a file. -/
theorem field_read_as_file :
    disposition "a; filename=b" none = "form-data; name=\"a; filename=b\"" ∧
      parse_multipart_part ⟨some (disposition "a; filename=b" none), some "text/plain", []⟩ =
        .ok ("a", some "b") ∧
      parse_multipart_part ⟨some (disposition "a; filename=b" none), some "text/plain", []⟩ ≠
        .ok ("a; filename=b", none) := by
  decide +kernel

end Disposition

end CortxCsm
