/-
# `CortxCsm.FilterQuery` — a filter from the text of a query

`Filter.prepare_filters` (`filter.py`) makes a filter of a text such as

    {severity=warning OR severity=error AND resolved=false}

which may be percent-encoded.  The conditions and the operators are read apart from each other:
the text is cut at the operators for the one, and at the blanks for the other.  The conditions
are then kept in a dictionary, by their fields, and put together with the operators by position.

**Proved here.**

    the parts of a query are read back                      (`parse_query_queryText`)
    the filter has one comparison for each item kept        (`leaves_prepare_filters`)
    the filter means what the query says exactly when no field is named twice
                                                            (`prepare_filters_iff`)
-/
import CortxCsm.Errors
import CortxCsm.Validators
import CortxCsm.Lib.Percent
import CortxCsm.Lib.Table
import CortxCsm.Lib.Text
import CortxCsm.Lib.Words

namespace CortxCsm

namespace FilterQuery

/-! ## Models and filters -/

/-- A name of Python, as far as it matters here. -/
def IsName (name : String) : Prop := ∀ c ∈ name.toList, isSpace c = false ∧ c ≠ '=' ∧ c ≠ '%'

/-- A field: whether `to_native` takes a text, or raises a `ConversionError`; and its value in
`model().to_native()`. -/
structure Field (V : Type) where
  converts : String → Bool
  default : V

/-- A model, by the names of its fields; and whether `model.` with a text after it is an
expression of Python, which raises an `AttributeError` where the text names no field. -/
structure Model (V : Type) where
  field : String → Option (Field V)
  expression : String → Bool
  names : ∀ {key : String} {f : Field V}, field key = some f → IsName key

inductive Value (V : Type)
  | text (value : String)
  | native (value : V)
  deriving DecidableEq, Repr

inductive Filter (V : Type)
  | compare (key : String) (value : Value V)
  | and (left right : Filter V)
  | or (left right : Filter V)
  deriving DecidableEq, Repr

inductive FilterExc
  | csm (e : CsmError)
  | valueError
  | indexError
  | syntaxError
  deriving DecidableEq, Repr

/-- `InvalidRequest(desc)`. -/
def invalidRequest (desc : String) : FilterExc :=
  .csm ⟨.InvalidRequest, CSM_INVALID_REQUEST, some desc, some "MalformedRequest", none⟩

/-- What `eval` of a key that names no field comes to. -/
def noField {V : Type} (model : Model V) (key : String) : FilterExc :=
  if model.expression key then invalidRequest ("key " ++ key ++ " not found") else .syntaxError

/-! ## `filter.py` -/

def operators : List (List Char) := ["OR".toList, "AND".toList]

/-- `key.split('=', 1)`. -/
def splitOnce (text : List Char) : List String :=
  match text.dropWhile (· ≠ '=') with
  | [] => [String.ofList text]
  | _ :: value => [String.ofList (text.takeWhile (· ≠ '=')), String.ofList value]

/-- `dict(pairs)`. -/
def dictOf (pairs : List (List String)) : Except FilterExc (Dict String String) := do
  let items ← pairs.mapM fun pair =>
    match pair with
    | [key, value] => .ok (key, value)
    | _ => .error .valueError
  return Table.empty.setAll items

def _parse_query (query : String) : Except FilterExc (Dict String String × List String) :=
  if query = "" then .ok (Table.empty, [])
  else do
    let fields := Words.splitWords operators 0 query.toList
    let key_value_fields := fields.map fun key => (splitOnce key).map (Text.strip isSpace)
    let operations := ((query.toList.splitOn ' ').filter (· ∈ operators)).map String.ofList
    let items ← dictOf key_value_fields
    return (items, operations)

section Filters

variable {V : Type}

/-- The defaults, for the values that are not taken. -/
def _validate_query_fields (fields : Dict String String) (model : Model V) :
    Except FilterExc (Dict String V) :=
  fields.rows.foldlM (fun updated_key_val (key, value) =>
    match model.field key with
    | none => .error (noField model key)
    | some field =>
        if field.converts value then .ok updated_key_val
        else .ok (updated_key_val.set key field.default)) Table.empty

/-- `query.update(updated_fields)`. -/
def updateFields (query : Dict String String) (updated : Dict String V) : Dict String (Value V) :=
  (query.mapVal .text).update (updated.mapVal .native)

/-- `nested_operations` conditions are in `condition`, but for the first. -/
def nest (operations : List String) :
    Option (Filter V) → Nat → List (String × Value V) → Except FilterExc (Option (Filter V))
  | condition, _, [] => .ok condition
  | none, nested_operations, (key, value) :: items =>
      nest operations (some (.compare key value)) nested_operations items
  | some condition, nested_operations, (key, value) :: items =>
      match operations[nested_operations]? with
      | none => .error .indexError
      | some operation =>
          let nested := if operation = "AND" then .and condition (.compare key value)
            else .or condition (.compare key value)
          nest operations (some nested) (nested_operations + 1) items

def prepare_filters (query : String) (model : Model V) : Except FilterExc (Filter V) := do
  let query := Percent.unquote query
  let (fields, operations) ← _parse_query (String.ofList (query.toList.drop 1).dropLast)
  let updated_fields ← _validate_query_fields fields model
  match ← nest operations none 0 (updateFields fields updated_fields).rows with
  | none => .error (invalidRequest "Empty query found")
  | some condition => .ok condition

end Filters

/-! ## What a query says -/

inductive Operator
  | AND
  | OR
  deriving DecidableEq, Repr

structure Condition where
  key : String
  value : String
  deriving DecidableEq, Repr

def Operator.text : Operator → String
  | .AND => "AND"
  | .OR => "OR"

def Condition.text (c : Condition) : String := c.key ++ "=" ++ c.value

def bodyText : Condition → List (Operator × Condition) → String
  | c, [] => c.text
  | c, (op, c') :: rest => c.text ++ " " ++ op.text ++ " " ++ bodyText c' rest

/-- `{k1=v1 OP1 k2=v2 ...}`. -/
def queryText (first : Condition) (rest : List (Operator × Condition)) : String :=
  "\x7b" ++ bodyText first rest ++ "\x7d"

section Meaning

variable {V : Type}

/-- The value that is compared with. -/
def resolve (model : Model V) (c : Condition) : Value V :=
  match model.field c.key with
  | none => .text c.value
  | some field => if field.converts c.value then .text c.value else .native field.default

def Operator.combine (op : Operator) (left right : Filter V) : Filter V :=
  match op with
  | .AND => .and left right
  | .OR => .or left right

def Condition.filter (model : Model V) (c : Condition) : Filter V :=
  .compare c.key (resolve model c)

/-- The comparisons, from left to right. -/
def meaning (model : Model V) (first : Condition) (rest : List (Operator × Condition)) :
    Filter V :=
  rest.foldl (fun left (op, c) => op.combine left (c.filter model)) (first.filter model)

def conditions (first : Condition) (rest : List (Operator × Condition)) : List Condition :=
  first :: rest.map Prod.snd

/-- A condition on a field of the model, with a value that the syntax has room for. -/
structure Condition.Valid (model : Model V) (c : Condition) : Prop where
  field : ∃ f, model.field c.key = some f
  percent : '%' ∉ c.value.toList
  trimmed : Text.Trimmed isSpace c.value
  words : ∀ w ∈ c.value.toList.splitOn ' ', w ∉ operators

end Meaning

/-! ## The text of a query -/

section Texts

variable {V : Type} {model : Model V} {c first : Condition} {rest : List (Operator × Condition)}

theorem operators_blank : ∀ w ∈ operators, ' ' ∉ w := by decide

theorem text_mem_operators (op : Operator) : op.text.toList ∈ operators := by
  cases op with
  | AND => decide
  | OR => decide

theorem toList_text (c : Condition) : c.text.toList = c.key.toList ++ '=' :: c.value.toList := by
  simp [Condition.text]

theorem toList_bodyText : ∀ (first : Condition) (rest : List (Operator × Condition)),
    (bodyText first rest).toList = Words.sentence first.text.toList
      (rest.map fun item => (item.1.text.toList, item.2.text.toList))
  | first, [] => by simp [bodyText, Words.sentence]
  | first, (op, c) :: rest => by
      rw [List.map_cons, Words.sentence_cons, ← toList_bodyText c rest, bodyText]
      simp

theorem bodyText_ne_empty (first : Condition) (rest : List (Operator × Condition)) :
    bodyText first rest ≠ "" := by
  intro h
  have hlist := congrArg String.toList h
  rw [toList_bodyText, Words.sentence, toList_text] at hlist
  simp at hlist

/-- The first word is longer by what has no blank. -/
theorem splitOn_append_left {sep : Char} : ∀ {a : List Char} (s : List Char), sep ∉ a →
    (a ++ s).splitOn sep = (s.splitOn sep).modifyHead (a ++ ·)
  | [], s, _ => by
      cases h : s.splitOn sep with
      | nil => exact h
      | cons head tail => exact h
  | c :: a, s, h => by
      have hc : ¬ (c == sep) = true := by
        rw [beq_iff_eq]
        exact Ne.symm (List.ne_of_not_mem_cons h)
      rw [List.cons_append, List.splitOn_cons_eq_if_modifyHead, if_neg hc,
        splitOn_append_left s (List.not_mem_of_not_mem_cons h)]
      cases s.splitOn sep with
      | nil => rfl
      | cons head tail => rfl

theorem key_isName (h : c.Valid model) : IsName c.key := by
  obtain ⟨f, hf⟩ := h.field
  exact model.names hf

/-- No word of a condition is an operator. -/
theorem words_text (h : c.Valid model) : ∀ w ∈ c.text.toList.splitOn ' ', w ∉ operators := by
  have hname := key_isName h
  have hblank : ' ' ∉ c.key.toList ++ ['='] := by
    intro hmem
    rcases List.mem_append.mp hmem with hmem | hmem
    · exact absurd (hname _ hmem).1 (by decide)
    · exact absurd (List.mem_singleton.mp hmem) (by decide)
  have hequals : ∀ w ∈ operators, '=' ∉ w := by decide
  intro w hw
  rw [toList_text, ← List.singleton_append, ← List.append_assoc,
    splitOn_append_left _ hblank] at hw
  have hwords := h.words
  cases hsplit : c.value.toList.splitOn ' ' with
  | nil => exact absurd hsplit (List.splitOn_ne_nil _ _)
  | cons head tail =>
      rw [hsplit, List.modifyHead_cons] at hw
      rw [hsplit] at hwords
      rcases List.mem_cons.mp hw with rfl | hw
      · exact fun hop => hequals _ hop (by simp)
      · exact hwords w (List.mem_cons_of_mem _ hw)

theorem splitOnce_text (h : c.Valid model) :
    (splitOnce c.text.toList).map (Text.strip isSpace) = [c.key, c.value] := by
  have hname := key_isName h
  have hkey : ∀ d ∈ c.key.toList, decide (d ≠ '=') = true :=
    fun d hd => decide_eq_true (hname d hd).2.1
  have hdrop : c.text.toList.dropWhile (· ≠ '=') = '=' :: c.value.toList := by
    rw [toList_text, List.dropWhile_append_of_pos hkey]
    rfl
  have htake : c.text.toList.takeWhile (· ≠ '=') = c.key.toList := by
    rw [toList_text, List.takeWhile_append_of_pos hkey]
    simp
  have hstrip : Text.strip isSpace c.key = c.key :=
    Text.strip_of_trimmed (Text.trimmed_of_forall fun d hd => (hname d hd).1)
  rw [splitOnce, hdrop]
  dsimp only
  rw [htake, String.ofList_toList, String.ofList_toList]
  simp only [List.map_cons, List.map_nil, hstrip, Text.strip_of_trimmed h.trimmed]

/-- What the dictionary is made of. -/
def pairs (first : Condition) (rest : List (Operator × Condition)) : List (String × String) :=
  (conditions first rest).map fun c => (c.key, c.value)

theorem dictOf_texts : ∀ {cs : List Condition}, (∀ c ∈ cs, c.Valid model) →
    dictOf (cs.map fun c => (splitOnce c.text.toList).map (Text.strip isSpace)) =
      .ok (Table.empty.setAll (cs.map fun c => (c.key, c.value))) := by
  intro cs h
  have hmap : (cs.map fun c => (splitOnce c.text.toList).map (Text.strip isSpace)) =
      cs.map fun c => [c.key, c.value] :=
    List.map_congr_left fun c hc => splitOnce_text (h c hc)
  have hpairs : ∀ cs : List Condition,
      ((cs.map fun c => [c.key, c.value]).mapM fun pair =>
          match pair with
          | [key, value] => (.ok (key, value) : Except FilterExc (String × String))
          | _ => .error .valueError) = .ok (cs.map fun c => (c.key, c.value)) := by
    intro cs
    induction cs with
    | nil => rfl
    | cons c cs ih =>
        rw [List.map_cons, List.mapM_cons, ih]
        rfl
  rw [hmap, dictOf, hpairs]
  rfl

/-- The conditions and the operators are read back. -/
theorem parse_query_bodyText (h : ∀ c ∈ conditions first rest, c.Valid model) :
    _parse_query (bodyText first rest) =
      .ok (Table.empty.setAll (pairs first rest), rest.map fun item => item.1.text) := by
  have hops : ∀ r ∈ rest.map fun item => (item.1.text.toList, item.2.text.toList),
      r.1 ∈ operators := by
    intro r hr
    obtain ⟨item, -, rfl⟩ := List.mem_map.mp hr
    exact text_mem_operators item.1
  have hsegments : first.text.toList ::
      (rest.map fun item => (item.1.text.toList, item.2.text.toList)).map Prod.snd =
        (conditions first rest).map fun c => c.text.toList := by
    simp [conditions]
  have hwords : ∀ segment ∈ first.text.toList ::
      (rest.map fun item => (item.1.text.toList, item.2.text.toList)).map Prod.snd,
      ∀ w ∈ segment.splitOn ' ', w ∉ operators := by
    rw [hsegments]
    intro segment hsegment
    obtain ⟨c, hc, rfl⟩ := List.mem_map.mp hsegment
    exact words_text (h c hc)
  have hfields : Words.splitWords operators 0 (bodyText first rest).toList =
      (conditions first rest).map fun c => c.text.toList := by
    rw [toList_bodyText, Words.splitWords_sentence operators_blank hops hwords, hsegments]
  have hoperations : ((bodyText first rest).toList.splitOn ' ').filter (· ∈ operators) =
      rest.map fun item => item.1.text.toList := by
    rw [toList_bodyText, Words.filter_words_sentence operators_blank hops hwords, List.map_map]
    rfl
  rw [_parse_query, if_neg (bodyText_ne_empty first rest), hfields, hoperations]
  simp only [List.map_map, Function.comp_def, String.ofList_toList]
  rw [dictOf_texts h]
  rfl

end Texts

/-! ## Defaults -/

section Defaults

variable {V : Type} {model : Model V}

/-- The default of a field, if the value is not taken. -/
def defaultFor (field : Field V) (value : String) : Option V :=
  if field.converts value then none else some field.default

/-- One turn of the loop over the items. -/
def validateItem (model : Model V) (updated_key_val : Dict String V) (item : String × String) :
    Except FilterExc (Dict String V) :=
  match model.field item.1 with
  | none => .error (noField model item.1)
  | some field =>
      if field.converts item.2 then .ok updated_key_val
      else .ok (updated_key_val.set item.1 field.default)

theorem validateItem_ok (updated : Dict String V) {item : String × String} {field : Field V}
    (h : model.field item.1 = some field) :
    ∃ updated', validateItem model updated item = .ok updated' ∧
      (∀ k ∈ updated'.keys, k ∈ updated.keys ∨ k = item.1) ∧
      ∀ k, updated'.get? k =
        if item.1 = k then (defaultFor field item.2).or (updated.get? k) else updated.get? k := by
  unfold validateItem defaultFor
  rw [h]
  dsimp only
  split
  · refine ⟨updated, rfl, fun k hk => .inl hk, fun k => ?_⟩
    simp
  · refine ⟨_, rfl, fun k hk => Table.mem_keys_set.mp hk, fun k => ?_⟩
    rw [Table.get?_set]
    rfl

theorem foldlM_validateItem : ∀ {items : List (String × String)} (updated : Dict String V),
    (items.map Prod.fst).Nodup → (∀ item ∈ items, ∃ field, model.field item.1 = some field) →
    ∃ updated', items.foldlM (validateItem model) updated = .ok updated' ∧
      (∀ k ∈ updated'.keys, k ∈ updated.keys ∨ k ∈ items.map Prod.fst) ∧
      (∀ k, k ∉ items.map Prod.fst → updated'.get? k = updated.get? k) ∧
      ∀ item ∈ items, ∀ field, model.field item.1 = some field →
        updated'.get? item.1 = (defaultFor field item.2).or (updated.get? item.1)
  | [], updated, _, _ =>
      ⟨updated, rfl, fun _ hk => .inl hk, fun _ _ => rfl, fun _ h => absurd h List.not_mem_nil⟩
  | item :: items, updated, hnodup, hfields => by
      rw [List.map_cons, List.nodup_cons] at hnodup
      obtain ⟨field, hfield⟩ := hfields item List.mem_cons_self
      obtain ⟨next, hnext, hkeys, hget⟩ := validateItem_ok updated hfield
      obtain ⟨last, hlast, hkeys', hother, hvalue⟩ := foldlM_validateItem next hnodup.2
        fun it hit => hfields it (List.mem_cons_of_mem _ hit)
      refine ⟨last, ?_, ?_, ?_, ?_⟩
      · rw [List.foldlM_cons, hnext]
        exact hlast
      · intro k hk
        rw [List.map_cons, List.mem_cons]
        rcases hkeys' k hk with hk | hk
        · rcases hkeys k hk with hk | rfl
          · exact .inl hk
          · exact .inr (.inl rfl)
        · exact .inr (.inr hk)
      · intro k hk
        rw [List.map_cons, List.mem_cons, not_or] at hk
        rw [hother k hk.2, hget, if_neg (Ne.symm hk.1)]
      · intro it hit field' hfield'
        rcases List.mem_cons.mp hit with rfl | hit
        · rw [hother _ hnodup.1, hget, if_pos rfl]
          rw [Option.some.inj (hfield.symm.trans hfield')]
        · have hne : item.1 ≠ it.1 := by
            intro heq
            exact hnodup.1 (heq ▸ List.mem_map_of_mem hit)
          rw [hvalue it hit field' hfield', hget, if_neg hne]

theorem validate_query_fields_ok {fields : Dict String String}
    (h : ∀ k ∈ fields.keys, ∃ field, model.field k = some field) :
    ∃ updated, _validate_query_fields fields model = .ok updated ∧ updated.keys ⊆ fields.keys ∧
      ∀ item ∈ fields.rows, ∀ field, model.field item.1 = some field →
        updated.get? item.1 = defaultFor field item.2 := by
  have hfields : ∀ item ∈ fields.rows, ∃ field, model.field item.1 = some field :=
    fun item hitem => h item.1 (List.mem_map_of_mem hitem)
  obtain ⟨updated, hupdated, hkeys, -, hvalue⟩ :=
    foldlM_validateItem Table.empty fields.nodup hfields
  refine ⟨updated, hupdated, ?_, ?_⟩
  · intro k hk
    rcases hkeys k hk with hk | hk
    · exact absurd hk List.not_mem_nil
    · exact hk
  · intro item hitem field hfield
    rw [hvalue item hitem field hfield]
    simp

theorem keys_updateFields {fields : Dict String String} {updated : Dict String V}
    (h : updated.keys ⊆ fields.keys) : (updateFields fields updated).keys = fields.keys := by
  have hkeys : ∀ {α β : Type} (d : Dict String α) (f : α → β), (d.mapVal f).keys = d.keys := by
    intro α β d f
    rw [Table.keys, Table.mapVal, List.map_map]
    rfl
  rw [updateFields, Table.update, Table.keys_setAll_of_subset, hkeys]
  have hsub := h
  rw [← hkeys updated Value.native, ← hkeys fields (Value.text : String → Value V)] at hsub
  exact hsub

/-- Each value is the text, or the default if that is not taken. -/
theorem rows_updateFields {cs : List Condition} {fields : Dict String String}
    {updated : Dict String V} (hrows : fields.rows = cs.map fun c => (c.key, c.value))
    (hfields : ∀ c ∈ cs, ∃ field, model.field c.key = some field)
    (hkeys : updated.keys ⊆ fields.keys)
    (hvalue : ∀ item ∈ fields.rows, ∀ field, model.field item.1 = some field →
      updated.get? item.1 = defaultFor field item.2) :
    (updateFields fields updated).rows = cs.map fun c => (c.key, resolve model c) := by
  have hnames : fields.keys = cs.map Condition.key := by
    rw [Table.keys, hrows, List.map_map]
    rfl
  have hnodup : ((cs.map fun c => (c.key, resolve model c)).map Prod.fst).Nodup := by
    rw [List.map_map]
    exact hnames ▸ fields.nodup_keys
  let resolved : Dict String (Value V) := ⟨cs.map fun c => (c.key, resolve model c), hnodup⟩
  have htable : updateFields fields updated = resolved := by
    refine Table.ext_of_keys ?_ ?_
    · rw [keys_updateFields hkeys, hnames, Table.keys, List.map_map]
      rfl
    · intro k hk
      rw [keys_updateFields hkeys, hnames] at hk
      obtain ⟨c, hc, rfl⟩ := List.mem_map.mp hk
      obtain ⟨field, hfield⟩ := hfields c hc
      have hitem : (c.key, c.value) ∈ fields.rows := by
        rw [hrows]
        exact List.mem_map_of_mem hc
      have htext : fields.get? c.key = some c.value := Table.get?_eq_some.mpr hitem
      have hresolved : resolved.get? c.key = some (resolve model c) :=
        Table.get?_eq_some.mpr (List.mem_map.mpr ⟨c, hc, rfl⟩)
      rw [hresolved, updateFields, Table.get?_update, Table.get?_mapVal,
        Table.get?_mapVal, htext, hvalue _ hitem field hfield, resolve, hfield, defaultFor]
      dsimp only
      split
      · rfl
      · rfl
  rw [htable]

end Defaults

/-! ## The filter -/

section Nesting

variable {V : Type} {model : Model V} {first : Condition} {rest : List (Operator × Condition)}

/-- How many comparisons there are. -/
def Filter.leaves : Filter V → Nat
  | .compare _ _ => 1
  | .and left right => left.leaves + right.leaves
  | .or left right => left.leaves + right.leaves

theorem nest_eq_meaning {operations : List String} : ∀ {rest : List (Operator × Condition)}
    {condition : Filter V} {n : Nat}, operations.drop n = rest.map (fun item => item.1.text) →
      nest operations (some condition) n
          (rest.map fun item => (item.2.key, resolve model item.2)) =
        .ok (some (rest.foldl (fun left (op, c) => op.combine left (c.filter model)) condition))
  | [], _, _, _ => rfl
  | (op, c) :: rest, condition, n, h => by
      rw [List.map_cons] at h
      have hget : operations[n]? = some op.text := by
        rw [← Nat.add_zero n, ← List.getElem?_drop, h]
        rfl
      have hdrop : operations.drop (n + 1) = rest.map fun item => item.1.text := by
        rw [← List.drop_drop, h]
        rfl
      have hnested : (if op.text = "AND" then .and condition (.compare c.key (resolve model c))
          else .or condition (.compare c.key (resolve model c))) =
            op.combine condition (c.filter model) := by
        cases op with
        | AND => rfl
        | OR => rfl
      rw [List.map_cons, nest, hget]
      dsimp only
      rw [hnested, nest_eq_meaning hdrop, List.foldl_cons]

/-- An item is a comparison. -/
theorem leaves_nest {operations : List String} : ∀ {items : List (String × Value V)}
    {condition : Option (Filter V)} {n : Nat} {result : Filter V},
      nest operations condition n items = .ok (some result) →
        result.leaves = (condition.elim 0 Filter.leaves) + items.length
  | [], condition, _, result, h => by
      rw [nest] at h
      cases h
      rfl
  | (key, value) :: items, none, n, result, h => by
      rw [nest] at h
      rw [leaves_nest h, List.length_cons]
      simp [Filter.leaves]
      omega
  | (key, value) :: items, some condition, n, result, h => by
      rw [nest] at h
      cases hget : operations[n]? with
      | none =>
          rw [hget] at h
          cases h
      | some operation =>
          rw [hget] at h
          dsimp only at h
          have hleaves : ∀ f : Filter V, (f = .and condition (.compare key value) ∨
              f = .or condition (.compare key value)) → f.leaves = condition.leaves + 1 := by
            rintro f (rfl | rfl)
            · rfl
            · rfl
          rw [leaves_nest h, List.length_cons, Option.elim_some, Option.elim_some, hleaves _ ?_]
          · omega
          · split
            · exact .inl rfl
            · exact .inr rfl

theorem leaves_meaning : (meaning model first rest).leaves = (conditions first rest).length := by
  have hfold : ∀ (rest : List (Operator × Condition)) (f : Filter V),
      (rest.foldl (fun left (op, c) => op.combine left (c.filter model)) f).leaves =
        f.leaves + rest.length := by
    intro rest
    induction rest with
    | nil => exact fun f => rfl
    | cons item rest ih =>
        intro f
        obtain ⟨op, c⟩ := item
        have hop : (op.combine f (c.filter model)).leaves = f.leaves + 1 := by
          cases op with
          | AND => rfl
          | OR => rfl
        rw [List.foldl_cons, ih, hop, List.length_cons]
        omega
  rw [meaning, hfold, conditions, List.length_cons, List.length_map]
  exact Nat.add_comm _ _

/-- What becomes of a well-formed query. -/
theorem prepare_filters_eq {written : String}
    (hwritten : Percent.Quoted written.toList (queryText first rest).toList)
    (h : ∀ c ∈ conditions first rest, c.Valid model) :
    ∃ updated : Dict String V, updated.keys ⊆ (Table.empty.setAll (pairs first rest)).keys ∧
      (∀ item ∈ (Table.empty.setAll (pairs first rest)).rows, ∀ field,
        model.field item.1 = some field → updated.get? item.1 = defaultFor field item.2) ∧
      prepare_filters written model =
        (nest (rest.map fun item => item.1.text) none 0
          (updateFields (Table.empty.setAll (pairs first rest)) updated).rows >>= fun condition =>
            match condition with
            | none => .error (invalidRequest "Empty query found")
            | some condition => .ok condition) := by
  have hbody : ((queryText first rest).toList.drop 1).dropLast = (bodyText first rest).toList := by
    simp [queryText]
  have hfields : ∀ k ∈ (Table.empty.setAll (pairs first rest)).keys,
      ∃ field, model.field k = some field := by
    intro k hk
    rcases Table.mem_keys_setAll.mp hk with hk | hk
    · exact absurd hk List.not_mem_nil
    · rw [pairs, List.map_map] at hk
      obtain ⟨c, hc, rfl⟩ := List.mem_map.mp hk
      exact (h c hc).field
  obtain ⟨updated, hupdated, hkeys, hvalue⟩ := validate_query_fields_ok hfields
  refine ⟨updated, hkeys, hvalue, ?_⟩
  rw [prepare_filters, Percent.unquote_quoted hwritten, hbody, String.ofList_toList,
    parse_query_bodyText h]
  show (_validate_query_fields (Table.empty.setAll (pairs first rest)) model >>= _) = _
  rw [hupdated]
  rfl

end Nesting

theorem prepare_filters_iff {V : Type} (model : Model V) (first : Condition)
    (rest : List (Operator × Condition)) (written : String)
    (hwritten : Percent.Quoted written.toList (queryText first rest).toList)
    (h : ∀ c ∈ conditions first rest, c.Valid model) :
    prepare_filters written model = .ok (meaning model first rest) ↔
      ((conditions first rest).map Condition.key).Nodup := by
  obtain ⟨updated, hkeys, hvalue, heq⟩ := prepare_filters_eq hwritten h
  have hnames : (pairs first rest).map Prod.fst = (conditions first rest).map Condition.key := by
    rw [pairs, List.map_map]
    rfl
  rw [heq]
  constructor
  · intro hok
    cases hnest : nest (rest.map fun item => item.1.text) none 0
        (updateFields (Table.empty.setAll (pairs first rest)) updated).rows with
    | error e =>
        rw [hnest] at hok
        cases hok
    | ok condition =>
        rw [hnest] at hok
        cases condition with
        | none => cases hok
        | some condition =>
            have hmeaning : condition = meaning model first rest := Except.ok.inj hok
            have hleaves := leaves_nest hnest
            have hlen : (updateFields (Table.empty.setAll (pairs first rest)) updated).rows.length =
                (Table.empty.setAll (pairs first rest)).len := by
              rw [← Table.length_keys, ← keys_updateFields hkeys, Table.keys, List.length_map]
            rw [hmeaning, leaves_meaning, hlen, Option.elim_none, Nat.zero_add] at hleaves
            rw [← hnames]
            refine Table.nodup_of_len_setAll ?_
            rw [← hleaves, pairs, List.length_map]
  · intro hnodup
    have hrows : (Table.empty.setAll (pairs first rest)).rows = pairs first rest := by
      rw [Table.rows_setAll_of_new]
      · rfl
      · rw [hnames]
        exact hnodup
    rw [rows_updateFields hrows (fun c hc => (h c hc).field) hkeys hvalue, conditions,
      List.map_cons, nest, List.map_map]
    have hrest : nest (rest.map fun item => item.1.text) (some (first.filter model)) 0
        (rest.map fun item => (item.2.key, resolve model item.2)) =
          .ok (some (meaning model first rest)) :=
      nest_eq_meaning List.drop_zero
    show (nest _ (some (first.filter model)) 0
      (rest.map fun item => (item.2.key, resolve model item.2)) >>= _) = _
    rw [hrest]
    rfl

/-! ## Alerts -/

/-- Two fields of an alert. -/
def alertModel : Model String where
  field key :=
    if key = "severity" then some ⟨fun value => value ≠ "", "none"⟩
    else if key = "resolved" then
      some ⟨fun value => value = "true" ∨ value = "false", "false"⟩
    else none
  expression key := decide (key ≠ "") && key.toList.all fun c => c.isAlpha || c = '_'
  names := by
    intro key f h
    split at h
    · rename_i hkey
      subst hkey
      simp [IsName, isSpace]
    · split at h
      · rename_i hkey
        subst hkey
        simp [IsName, isSpace]
      · cases h

theorem alert_valid {c : Condition} (hfield : c.key = "severity" ∨ c.key = "resolved")
    (hpercent : '%' ∉ c.value.toList)
    (htrimmed : Text.Trimmed isSpace c.value)
    (hwords : ∀ w ∈ c.value.toList.splitOn ' ', w ∉ operators) : c.Valid alertModel := by
  refine ⟨?_, hpercent, htrimmed, hwords⟩
  rcases hfield with hkey | hkey
  · rw [hkey]
    exact ⟨_, rfl⟩
  · rw [hkey]
    exact ⟨_, rfl⟩

/-- `{severity=very high AND resolved=maybe}`, with one character encoded. -/
theorem prepare_filters_iff_alerts :
    prepare_filters "\x7bseverity%3Dvery high AND resolved=maybe\x7d" alertModel =
      .ok (.and (.compare "severity" (.text "very high"))
        (.compare "resolved" (.native "false"))) := by
  have hbytes : Percent.utf8 '=' = [61] := by decide
  have hescapes : Percent.Escapes ['%', '3', 'D'] (Percent.utf8 '=') :=
    hbytes ▸ .cons (by decide) .nil
  have hbefore : Percent.Quoted "\x7bseverity".toList "\x7bseverity".toList :=
    Percent.quoted_self (by decide +kernel)
  have hafter : Percent.Quoted "very high AND resolved=maybe\x7d".toList
      "very high AND resolved=maybe\x7d".toList :=
    Percent.quoted_self (by decide +kernel)
  have hwritten : "\x7bseverity%3Dvery high AND resolved=maybe\x7d".toList =
      "\x7bseverity".toList ++ (['%', '3', 'D'] ++ "very high AND resolved=maybe\x7d".toList) := by
    decide +kernel
  have htext : (queryText ⟨"severity", "very high"⟩ [(.AND, ⟨"resolved", "maybe"⟩)]).toList =
      "\x7bseverity".toList ++ '=' :: "very high AND resolved=maybe\x7d".toList := by
    decide +kernel
  have hquoted : Percent.Quoted "\x7bseverity%3Dvery high AND resolved=maybe\x7d".toList
      (queryText ⟨"severity", "very high"⟩ [(.AND, ⟨"resolved", "maybe"⟩)]).toList := by
    rw [hwritten, htext]
    exact hbefore.append (.escaped hescapes hafter)
  have hvalid : ∀ c ∈ conditions ⟨"severity", "very high"⟩ [(.AND, ⟨"resolved", "maybe"⟩)],
      c.Valid alertModel := by
    intro c hc
    simp only [conditions, List.map_cons, List.map_nil, List.mem_cons, List.not_mem_nil,
      or_false] at hc
    rcases hc with rfl | rfl
    · exact alert_valid (.inl rfl) (by simp) (by simp [Text.Trimmed, isSpace]) (by decide +kernel)
    · exact alert_valid (.inr rfl) (by simp) (by simp [Text.Trimmed, isSpace]) (by decide +kernel)
  exact (prepare_filters_iff alertModel ⟨"severity", "very high"⟩
    [(.AND, ⟨"resolved", "maybe"⟩)] _ hquoted hvalid).mpr (by decide +kernel)

example : prepare_filters "\x7bvery high=1\x7d" alertModel = .error .syntaxError := by
  decide +kernel

/-- The first of two conditions on one field is lost. -/
theorem repeated_field_lost :
    ¬ ∀ (model : Model String) (first : Condition) (rest : List (Operator × Condition))
      (written : String), Percent.Quoted written.toList (queryText first rest).toList →
      (∀ c ∈ conditions first rest, c.Valid model) →
      prepare_filters written model = .ok (meaning model first rest) := by
  intro hclaim
  have hvalid : ∀ c ∈ conditions ⟨"severity", "warning"⟩ [(.OR, ⟨"severity", "error"⟩)],
      c.Valid alertModel := by
    intro c hc
    simp only [conditions, List.map_cons, List.map_nil, List.mem_cons, List.not_mem_nil,
      or_false] at hc
    rcases hc with rfl | rfl
    · exact alert_valid (.inl rfl) (by simp) (by simp [Text.Trimmed, isSpace]) (by decide +kernel)
    · exact alert_valid (.inl rfl) (by simp) (by simp [Text.Trimmed, isSpace]) (by decide +kernel)
  have hresult := hclaim alertModel ⟨"severity", "warning"⟩ [(.OR, ⟨"severity", "error"⟩)] _
    (Percent.quoted_self (by decide +kernel)) hvalid
  have hlost : prepare_filters (queryText ⟨"severity", "warning"⟩ [(.OR, ⟨"severity", "error"⟩)])
      alertModel = .ok (.compare "severity" (.text "error")) := by
    decide +kernel
  rw [hlost] at hresult
  cases hresult

end FilterQuery

end CortxCsm
