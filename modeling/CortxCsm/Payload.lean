/-
# `CortxCsm.Payload` — `csm/common/payload.py`, `RGWPlugin._build_response`

A payload is a document in memory (`_data`), the document it was read from (`_doc`) and a
flag that says whether the two may differ (`_dirty`).  A dotted key names a path.

`set` makes every value on the way to its path an object.  `get` takes for granted that
they are: it asks each for its `keys()`, whatever it is.  `pop` does not follow the path:
it splits the key once, looks for the rest of it as one literal key in the section, and
prunes an emptied section with the list the split returned as the key.

| `pop` finds | returns | the document | `_dirty` |
| :-- | :-- | :-- | :-- |
| a key in the root, or in a section that keeps another | the value | without it | set |
| the last key of a section | raises `TypeError` | with the section empty | as it was |
| nothing, with a default | the default | as it was | cleared |
| nothing, without one | raises `KeyError` | as it was | as it was |
| a section that is no object | raises | as it was | as it was |

A document is read from and written to a text (JSON, YAML, TOML, a file that is not there
being the empty one), so that what is in memory is a copy; or it is the dictionary itself
(`Dict`).  The formats whose values are no JSON (INI, plain text, archives) are left out.
-/
import CortxCsm.Lib.Document
import CortxCsm.Lib.Text

namespace CortxCsm

/-- What a payload raises. -/
inductive PyError
  | AttributeError
  | KeyError
  | TypeError
  | notSynced
  | notInitialized
  deriving DecidableEq

/-- Where a payload comes from: a text with the document in it, or the object in memory. -/
inductive Doc
  | written (content : Json)
  | Dict

structure Payload where
  _dirty : Bool
  _doc : Doc
  _data : Json

/-- The segments of a dotted key, at least one. -/
def segments (key : String) : List String := Text.split '.' key

/-- `key.split('.', 1)`: the first segment and, if there is a dot, what follows it. -/
def splitOnce (key : String) : String × Option String :=
  match segments key with
  | [] => (key, none)
  | [k] => (k, none)
  | k :: rest => (k, some (Text.join '.' rest))

namespace Payload

/-- What `self._doc.load()` returns. -/
def document (p : Payload) : Json :=
  match p._doc with
  | .written content => content
  | .Dict => p._data

/-- `Payload(doc)` for a text. -/
def read (content : Json) : Payload := ⟨false, .written content, content⟩

/-- `Payload(Dict(data))`. -/
def ofDict (data : Json) : Payload := ⟨false, .Dict, data⟩

theorem ofDict_data (data : List (String × Json)) : (ofDict (.obj data))._data = .obj data := rfl

def load (p : Payload) : Payload × Except PyError Json :=
  if p._dirty then (p, .error .notSynced)
  else ({ p with _data := p.document }, .ok p.document)

def dump (p : Payload) : Payload :=
  { p with
    _dirty := false
    _doc := match p._doc with
      | .written _ => .written p._data
      | .Dict => .Dict }

/-- `_get(key, data)` on the segments of the key; none is left when the last has been
taken. -/
def _get : List String → Json → Except PyError Json
  | [], data => .ok data
  | k :: rest, .obj entries =>
      match entries.lookup k with
      | none => .ok .null
      | some value => _get rest value
  | _ :: _, _ => .error .AttributeError

def get (p : Payload) (key : String) : Except PyError Json :=
  match p._data with
  | .null => .error .notInitialized
  | data => _get (segments key) data

/-- `_set(key, val, data)`: a section that is missing or no object is replaced by `{}`. -/
def _set (val : Json) : List String → List (String × Json) → List (String × Json)
  | [], data => data
  | [k], data => Json.putEntry k val data
  | k :: rest, data => Json.putEntry k (.obj (_set val rest (Json.sectionAt k data))) data

def set (p : Payload) (key : String) (val : Json) : Payload × Except PyError Unit :=
  match p._data, segments key with
  | .obj data, path => ({ p with _data := .obj (_set val path data), _dirty := true }, .ok ())
  | _, [_] => (p, .error .TypeError)
  | _, _ => (p, .error .AttributeError)

/-- `k in x` and then `x.pop(k, …)` where `x` is no dictionary: a text has no `pop`, the
`pop` of a list takes an index, and nothing else can be asked for a member. -/
def popRefused : Json → PyError
  | .str _ => .AttributeError
  | _ => .TypeError

/-- Where the key is not found: `_dirty = dirty`, which is `False`, and the default; or
`KeyError`. -/
def popDefault (p : Payload) : Option Json → Payload × Except PyError Json
  | some default => ({ p with _dirty := false }, .ok default)
  | none => (p, .error .KeyError)

/-- `pop` for a key of one segment. -/
def popRoot (p : Payload) (k : String) (default : Option Json) : Payload × Except PyError Json :=
  match p._data with
  | .obj data =>
      match data.lookup k with
      | some value => ({ p with _data := .obj (Json.dropEntry k data), _dirty := true }, .ok value)
      | none => p.popDefault default
  | data => (p, .error (popRefused data))

/-- `pop` for a key with a dot in it: the section `k`, and the rest of the key. -/
def popSection (p : Payload) (k rest : String) (default : Option Json) :
    Payload × Except PyError Json :=
  match p._data with
  | .obj data =>
      match data.lookup k with
      | none => (p, .error .KeyError)
      | some (.obj entries) =>
          match entries.lookup rest with
          | none => p.popDefault default
          | some value =>
              if Json.dropEntry rest entries = [] then
                -- the emptied section is popped under the list of the split, which is no key
                ({ p with _data := .obj (Json.putEntry k (.obj []) data) }, .error .TypeError)
              else
                ({ p with
                    _data := .obj (Json.putEntry k (.obj (Json.dropEntry rest entries)) data)
                    _dirty := true },
                  .ok value)
      | some value => (p, .error (popRefused value))
  | _ => (p, .error .TypeError)

/-- `pop(key)` and `pop(key, default)`. -/
def pop (p : Payload) (key : String) (default : Option Json) : Payload × Except PyError Json :=
  match splitOnce key with
  | (k, none) => p.popRoot k default
  | (k, some rest) => p.popSection k rest default

/-- The body of the loop of `convert`, for one entry of the schema. -/
def convertEntry (p payload : Payload) (entry : String × String) : Except PyError Payload :=
  match p.get entry.1 with
  | .error e => .error e
  | .ok val =>
      match payload.set entry.2 val with
      | (payload, .ok _) => .ok payload
      | (_, .error e) => .error e

/-- `convert(schema, payload)`. -/
def convert (p : Payload) (schema : Dict String String) (payload : Payload) :
    Except PyError Payload :=
  schema.rows.foldlM p.convertEntry payload

end Payload

/-! ## The response mapping -/

/-- `iam_operations_mapping.json`. -/
def iam_operations_mapping : Dict String (Dict String String) :=
  Table.empty.setAll
    [("LIST_USERS", Table.empty.setAll [("keys", "users"), ("count", "count"), ("marker", "marker")]),
      ("GET_USER_CAPACITY", Table.empty.setAll
        [("tenant", "capacity.s3.users.tenant"), ("user_id", "capacity.s3.users.id"),
          ("stats.size", "capacity.s3.users.used"),
          ("stats.size_actual", "capacity.s3.users.used_rounded"),
          ("stats.num_objects", "capacity.s3.users.objects")])]

namespace RGWPlugin

/-- `_params_cleanup`: drop the keys of the first level whose value is `None`. -/
def _params_cleanup : Json → Except PyError Json
  | .obj params => .ok (.obj (params.filter fun kv => kv.2.given))
  | _ => .error .AttributeError

/-- `_build_response(operation, response)`; `schema` is `_api_response_mapping_schema`. -/
def _build_response (schema : Dict String (Dict String String)) (operation : String)
    (response : Json) : Except PyError Json :=
  match schema.get? operation with
  | none => .ok response
  | some mapping =>
      if mapping.len = 0 then .ok response
      else
        match (Payload.read response).convert mapping (Payload.ofDict (.obj [])) with
        | .error e => .error e
        | .ok parsed =>
            match parsed.dump.load with
            | (_, .error e) => .error e
            | (_, .ok mapped) => _params_cleanup mapped

end RGWPlugin

namespace Payload

/-! ## Setting, read back at paths -/

theorem segments_ne_nil (key : String) : segments key ≠ [] := Text.split_ne_nil '.' key

/-- `_set` writes under the first key: the value, or the section with the rest set. -/
theorem lookup_set (val : Json) (k : String) (rest : List String)
    (data : List (String × Json)) (k' : String) :
    (_set val (k :: rest) data).lookup k' =
      if k = k' then
        some (if rest = [] then val else .obj (_set val rest (Json.sectionAt k data)))
      else data.lookup k' := by
  cases rest with
  | nil => exact Json.lookup_putEntry k k' val data
  | cons next rest =>
      rw [if_neg (List.cons_ne_nil next rest)]
      exact Json.lookup_putEntry k k' _ data

theorem set_obj {p : Payload} {data : List (String × Json)} (h : p._data = .obj data)
    (key : String) (val : Json) :
    p.set key val =
      ({ p with _data := .obj (_set val (segments key) data), _dirty := true }, .ok ()) := by
  rw [set, h]

theorem at?_set_self (val : Json) {path : List String} (hne : path ≠ [])
    (data : List (String × Json)) : Json.at? path (.obj (_set val path data)) = some val := by
  induction path generalizing data with
  | nil => exact absurd rfl hne
  | cons k rest ih =>
      rw [Json.at?_obj, lookup_set, if_pos rfl]
      by_cases hrest : rest = []
      · subst hrest
        exact Json.at?_nil val
      · rw [if_neg hrest]
        exact ih hrest _

theorem at?_set_unrelated (val : Json) {path path' : List String}
    (h : Json.Unrelated path path') (data : List (String × Json)) :
    Json.at? path' (.obj (_set val path data)) = Json.at? path' (.obj data) := by
  induction path generalizing path' data with
  | nil => exact absurd List.nil_prefix h.1
  | cons k rest ih =>
      cases path' with
      | nil => exact absurd rfl h.ne_nil
      | cons k' rest' =>
          rw [Json.at?_obj, lookup_set]
          by_cases hk : k = k'
          · subst hk
            have hrest := h.of_cons
            rw [if_pos rfl, if_neg hrest.symm.ne_nil, Json.at?_sectionAt k hrest.ne_nil]
            exact ih hrest _
          · rw [if_neg hk, ← Json.at?_obj]

/-- A way through objects stays one when another path is set. -/
theorem walks_set (val : Json) {path path' : List String} (h : Json.Unrelated path path')
    {data : List (String × Json)} (hwalks : Json.Walks path' (.obj data)) :
    Json.Walks path' (.obj (_set val path data)) := by
  induction path generalizing path' data with
  | nil => exact absurd List.nil_prefix h.1
  | cons k rest ih =>
      cases path' with
      | nil => exact absurd rfl h.ne_nil
      | cons k' rest' =>
          rw [Json.walks_obj, lookup_set]
          by_cases hk : k = k'
          · subst hk
            have hrest := h.of_cons
            rw [if_pos rfl, if_neg hrest.symm.ne_nil]
            rintro v ⟨⟩
            exact ih hrest hwalks.sectionAt
          · rw [if_neg hk]
            exact Json.walks_obj.mp hwalks

/-! ## Reading -/

/-- `_get` where every value on the way is an object. -/
theorem _get_of_walks {path : List String} {d : Json} (h : Json.Walks path d) :
    _get path d = .ok ((Json.at? path d).getD .null) := by
  induction path generalizing d with
  | nil => rw [_get, Json.at?_nil]; rfl
  | cons k rest ih =>
      cases d with
      | obj entries =>
          rw [_get, Json.at?_obj]
          cases hk : entries.lookup k with
          | none => rfl
          | some v => exact ih (Json.walks_obj.mp h v hk)
      | _ => exact h.elim

/-- `_get` where some value on the way is none. -/
theorem _get_of_not_walks {path : List String} {d : Json} (h : ¬ Json.Walks path d) :
    _get path d = .error .AttributeError := by
  induction path generalizing d with
  | nil => exact absurd (by cases d <;> exact trivial) h
  | cons k rest ih =>
      cases d with
      | obj entries =>
          rw [Json.walks_obj] at h
          simp only [not_forall] at h
          obtain ⟨v, hv, h⟩ := h
          rw [_get, hv]
          exact ih h
      | _ => rfl

theorem get_of_walks {p : Payload} {key : String} (h : Json.Walks (segments key) p._data) :
    p.get key = .ok ((Json.at? (segments key) p._data).getD .null) := by
  have hobj := h.isObject (segments_ne_nil key)
  rw [get]
  split
  · rename_i hnull
    rw [hnull] at hobj
    cases hobj
  · exact _get_of_walks h

theorem get_of_not_walks {p : Payload} {key : String} (h : ¬ Json.Walks (segments key) p._data) :
    ∃ e, p.get key = .error e := by
  rw [get]
  split
  · exact ⟨_, rfl⟩
  · exact ⟨_, _get_of_not_walks h⟩

theorem _get_ok_iff {path : List String} {d : Json} :
    _get path d = .ok ((Json.at? path d).getD .null) ↔ Json.Walks path d := by
  refine ⟨fun h => ?_, _get_of_walks⟩
  by_contra hwalks
  rw [_get_of_not_walks hwalks] at h
  cases h

/-- What the laws of path access say of one payload and a pair of keys. -/
structure PathFaithful (p : Payload) (data : List (String × Json)) (key : String) (val : Json)
    (key' : String) : Prop where
  set_get : (p.set key val).2 = .ok () ∧ (p.set key val).1.get key = .ok val
  others : Json.Unrelated (segments key) (segments key') →
    (p.set key val).1.get key' = p.get key'
  reads : p.get key' = .ok ((Json.at? (segments key') (.obj data)).getD .null)

/-- Path access is faithful where every value on the way of the key that is read is an
object. -/
theorem pathFaithful_iff (dirty : Bool) (doc : Doc) (data : List (String × Json)) (key : String)
    (val : Json) (key' : String) :
    PathFaithful ⟨dirty, doc, .obj data⟩ data key val key' ↔
      Json.Walks (segments key') (.obj data) := by
  refine ⟨fun h => _get_ok_iff.mp h.reads, fun hwalks => ⟨⟨rfl, ?_⟩, fun h => ?_, ?_⟩⟩
  · have hat := at?_set_self val (segments_ne_nil key) data
    show _get (segments key) (.obj (_set val (segments key) data)) = .ok val
    rw [_get_of_walks (Json.walks_of_at? hat), hat]
    rfl
  · show _get (segments key') (.obj (_set val (segments key) data)) = _get (segments key') (.obj data)
    rw [_get_of_walks (walks_set val h hwalks), _get_of_walks hwalks, at?_set_unrelated val h]
  · exact _get_of_walks hwalks

/-! ## Converting -/

/-- One path set after another. -/
def setAll (writes : List (List String × Json)) (data : List (String × Json)) :
    List (String × Json) :=
  writes.foldl (fun data write => _set write.2 write.1 data) data

theorem at?_setAll_unrelated {path : List String} : ∀ {writes : List (List String × Json)},
    (∀ write ∈ writes, Json.Unrelated write.1 path) → ∀ data,
      Json.at? path (.obj (setAll writes data)) = Json.at? path (.obj data) := by
  intro writes
  induction writes with
  | nil => exact fun _ _ => rfl
  | cons write writes ih =>
      intro h data
      rw [setAll, List.foldl_cons, ← setAll, ih fun w hw => h w (List.mem_cons_of_mem _ hw),
        at?_set_unrelated write.2 (h write List.mem_cons_self)]

theorem at?_setAll_mem {write : List String × Json} : ∀ {writes : List (List String × Json)},
    writes.Pairwise (fun w w' => Json.Unrelated w.1 w'.1) → (∀ w ∈ writes, w.1 ≠ []) →
      write ∈ writes → ∀ data,
        Json.at? write.1 (.obj (setAll writes data)) = some write.2 := by
  intro writes
  induction writes with
  | nil => exact fun _ _ h => absurd h List.not_mem_nil
  | cons first writes ih =>
      intro hpair hne hmem data
      obtain ⟨hfirst, hpair⟩ := List.pairwise_cons.mp hpair
      rw [setAll, List.foldl_cons, ← setAll]
      rcases List.mem_cons.mp hmem with rfl | hmem
      · rw [at?_setAll_unrelated fun w hw => (hfirst w hw).symm]
        exact at?_set_self write.2 (hne write List.mem_cons_self) data
      · exact ih hpair (fun w hw => hne w (List.mem_cons_of_mem _ hw)) hmem _

/-- What an entry of a schema has set in the target. -/
def written (d : Json) (entry : String × String) : List String × Json :=
  (segments entry.2, (Json.at? (segments entry.1) d).getD .null)

/-- One entry of a schema whose source can be read. -/
theorem convertEntry_of_walks {p payload : Payload} {target : List (String × Json)}
    (htarget : payload._data = .obj target) {entry : String × String}
    (hwalks : Json.Walks (segments entry.1) p._data) :
    p.convertEntry payload entry =
      .ok ⟨true, payload._doc, .obj (setAll [written p._data entry] target)⟩ := by
  rw [convertEntry, get_of_walks hwalks]
  simp only [set_obj htarget]
  rfl

/-- The loop of `convert` over entries whose sources can be read. -/
theorem convert_of_walks {p : Payload} {entries : List (String × String)}
    (hwalks : ∀ entry ∈ entries, Json.Walks (segments entry.1) p._data)
    {payload : Payload} {target : List (String × Json)} (htarget : payload._data = .obj target) :
    ∃ dirty, entries.foldlM p.convertEntry payload =
      .ok ⟨dirty, payload._doc, .obj (setAll (entries.map (written p._data)) target)⟩ := by
  induction entries generalizing payload target with
  | nil =>
      refine ⟨payload._dirty, ?_⟩
      rw [List.foldlM_nil, List.map_nil, setAll, List.foldl_nil, ← htarget]
      rfl
  | cons entry entries ih =>
      rw [List.foldlM_cons, convertEntry_of_walks htarget (hwalks entry List.mem_cons_self)]
      exact ih (fun e he => hwalks e (List.mem_cons_of_mem _ he)) rfl

/-- The loop of `convert` where some source cannot be read. -/
theorem convert_of_not_walks {p : Payload} {entries : List (String × String)}
    (hbad : ∃ entry ∈ entries, ¬ Json.Walks (segments entry.1) p._data)
    {payload : Payload} {target : List (String × Json)} (htarget : payload._data = .obj target) :
    ∃ e, entries.foldlM p.convertEntry payload = .error e := by
  induction entries generalizing payload target with
  | nil =>
      obtain ⟨entry, hmem, _⟩ := hbad
      exact absurd hmem List.not_mem_nil
  | cons entry entries ih =>
      rw [List.foldlM_cons]
      by_cases hentry : Json.Walks (segments entry.1) p._data
      · rw [convertEntry_of_walks htarget hentry]
        refine ih ?_ rfl
        obtain ⟨e, hmem, he⟩ := hbad
        rcases List.mem_cons.mp hmem with rfl | hmem
        · exact absurd hentry he
        · exact ⟨e, hmem, he⟩
      · obtain ⟨e, hget⟩ := get_of_not_walks hentry
        refine ⟨e, ?_⟩
        rw [convertEntry, hget]
        rfl

/-- The target paths of a mapping do not meet. -/
def Separate (mapping : Dict String String) : Prop :=
  mapping.rows.Pairwise fun e e' => Json.Unrelated (segments e.2) (segments e'.2)

instance (mapping : Dict String String) : Decidable (Separate mapping) :=
  inferInstanceAs (Decidable (mapping.rows.Pairwise _))

/-- What a conversion has to produce: at each target what the source has, and nothing
else. -/
def Converts (p : Payload) (mapping : Dict String String) : Prop :=
  ∃ out, p.convert mapping (ofDict (.obj [])) = .ok out ∧
    (∀ source target, mapping.get? source = some target → out.get target = p.get source) ∧
    ∀ path v, path ≠ [] → Json.at? path out._data = some v →
      ∃ entry ∈ mapping, ¬ Json.Unrelated (segments entry.2) path

/-- Every source of the mapping can be read. -/
def Readable (p : Payload) (mapping : Dict String String) : Prop :=
  ∀ entry ∈ mapping, Json.Walks (segments entry.1) p._data

theorem convert_ok_iff {p : Payload} {mapping : Dict String String} :
    (∃ out, p.convert mapping (ofDict (.obj [])) = .ok out) ↔ p.Readable mapping := by
  constructor
  · rintro ⟨out, hout⟩
    by_contra hbad
    simp only [Readable, not_forall] at hbad
    obtain ⟨entry, hmem, hbad⟩ := hbad
    obtain ⟨e, he⟩ := convert_of_not_walks ⟨entry, hmem, hbad⟩ (ofDict_data [])
    rw [convert, he] at hout
    cases hout
  · intro hwalks
    obtain ⟨dirty, hrun⟩ := convert_of_walks hwalks (ofDict_data [])
    exact ⟨_, hrun⟩

theorem converts_iff (p : Payload) {mapping : Dict String String} (hsep : Separate mapping) :
    p.Converts mapping ↔ p.Readable mapping := by
  constructor
  · rintro ⟨out, hout, -, -⟩
    exact convert_ok_iff.mp ⟨out, hout⟩
  · intro hwalks
    obtain ⟨dirty, hrun⟩ := convert_of_walks hwalks (ofDict_data [])
    refine ⟨_, hrun, ?_, ?_⟩
    · intro source target hentry
      have hmem : (source, target) ∈ mapping.rows := Table.get?_eq_some.mp hentry
      have hne : ∀ w ∈ mapping.rows.map (written p._data), w.1 ≠ [] := by
        intro w hw
        obtain ⟨e, _, rfl⟩ := List.mem_map.mp hw
        exact segments_ne_nil e.2
      have hpair : (mapping.rows.map (written p._data)).Pairwise
          fun w w' => Json.Unrelated w.1 w'.1 := List.pairwise_map.mpr hsep
      have hat : Json.at? (segments target) (.obj (setAll (mapping.rows.map (written p._data)) []))
          = some (written p._data (source, target)).2 :=
        at?_setAll_mem hpair hne (List.mem_map_of_mem hmem) []
      rw [get_of_walks (hwalks _ hmem), get_of_walks (Json.walks_of_at? hat), hat]
      rfl
    · intro path v hne hat
      by_contra hall
      have hall' : ∀ w ∈ mapping.rows.map (written p._data), Json.Unrelated w.1 path := by
        intro w hw
        obtain ⟨e, he, rfl⟩ := List.mem_map.mp hw
        by_contra hrel
        exact hall ⟨e, he, hrel⟩
      rw [at?_setAll_unrelated hall'] at hat
      cases path with
      | nil => exact hne rfl
      | cons k path => cases hat

end Payload

namespace RGWPlugin

/-- The mapping of a response ends exactly when every source of the operation can be
read. -/
theorem build_response_iff {schema : Dict String (Dict String String)} {operation : String}
    {response : Json} :
    (∃ body, _build_response schema operation response = .ok body) ↔
      ∀ mapping, schema.get? operation = some mapping → (Payload.read response).Readable mapping := by
  rw [_build_response]
  cases hmapping : schema.get? operation with
  | none => simp
  | some mapping =>
      have hone : (∀ m, some mapping = some m → (Payload.read response).Readable m) ↔
          (Payload.read response).Readable mapping := by simp
      rw [hone, ← Payload.convert_ok_iff]
      by_cases hlen : mapping.len = 0
      · have hrows : mapping.rows = [] := List.length_eq_zero_iff.mp hlen
        refine iff_of_true ?_ (Payload.convert_ok_iff.mpr ?_)
        · exact ⟨response, if_pos hlen⟩
        · intro entry hmem
          rw [Table.mem_def, hrows] at hmem
          cases hmem
      · simp only [if_neg hlen]
        constructor
        · rintro ⟨body, hbody⟩
          cases hout : (Payload.read response).convert mapping (.ofDict (.obj [])) with
          | error e => rw [hout] at hbody; cases hbody
          | ok out => exact ⟨out, rfl⟩
        · intro hout
          obtain ⟨dirty, hrun⟩ := Payload.convert_of_walks (Payload.convert_ok_iff.mp hout)
            (Payload.ofDict_data [])
          rw [Payload.convert, hrun]
          exact ⟨_, rfl⟩

/-- The targets of the two operations that are mapped do not meet. -/
theorem iam_operations_mapping_separate :
    ∀ entry ∈ iam_operations_mapping, Payload.Separate entry.2 := by
  decide +kernel

end RGWPlugin

/-- Path access, conversion and the response mapping do what they are for exactly where every
value on the way of a path that is read is an object. -/
theorem payload_faithful_iff (dirty : Bool) (doc : Doc) (data : List (String × Json))
    (key : String) (val : Json) (key' : String) (p : Payload) (mapping : Dict String String)
    (schema : Dict String (Dict String String)) (operation : String) (response : Json) :
    (Payload.PathFaithful ⟨dirty, doc, .obj data⟩ data key val key' ↔
      Json.Walks (segments key') (.obj data)) ∧
    (Payload.Separate mapping → (p.Converts mapping ↔ p.Readable mapping)) ∧
    ((∃ body, RGWPlugin._build_response schema operation response = .ok body) ↔
      ∀ mapping, schema.get? operation = some mapping →
        (Payload.read response).Readable mapping) :=
  ⟨Payload.pathFaithful_iff dirty doc data key val key', Payload.converts_iff p,
    RGWPlugin.build_response_iff⟩

/-- A capacity response without statistics. -/
theorem stats_null :
    ¬ Payload.PathFaithful (.read (.obj [("stats", .null)])) [("stats", .null)] "tenant"
        (.str "") "stats.size" ∧
      RGWPlugin._build_response iam_operations_mapping "GET_USER_CAPACITY"
        (.obj [("tenant", .str ""), ("user_id", .str "alice"), ("stats", .null)])
          = .error .AttributeError := by
  constructor
  · intro h
    exact absurd ((Payload.pathFaithful_iff false _ _ _ _ _).mp h) (by decide)
  · rfl

end CortxCsm
