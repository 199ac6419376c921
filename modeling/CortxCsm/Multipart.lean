/-
# `CortxCsm.Multipart` — a multipart request, read into a file cache

`parse_multipart_request` reads the parts of a request one after the other.  A part with a
file name goes into a new file of the cache, chunk by chunk; any other part is put together
in memory.  Both loops count the bytes: the one for files tests the count after it has added
a chunk, the other before.  What follows the last chunk is an empty one: it triggers the last
test, and closes the file.

The model has the directory of the cache and the streams that are open on it.  Making the
directory, opening a file and writing to it succeed.

| | |
| :-- | :-- |
| `csm/core/controllers/view.py` | `parse_multipart_request`, `aiohttp_body_getter` |
| `csm/core/services/file_transfer.py` | `FileCache` |
-/
import CortxCsm.Errors
import CortxCsm.Lib.Raising
import CortxCsm.Lib.Table
import CortxCsm.Lib.Text
import CortxCsm.Validators
import Mathlib.Data.List.Infix
import Mathlib.Data.List.TakeWhile

namespace CortxCsm

abbrev Bytes := List UInt8

/-- `bytes.decode()`. -/
def decode (bytes : Bytes) : Option String := String.fromUTF8? ⟨bytes.toArray⟩

/-- `InvalidRequest(desc)`. -/
def badRequest (desc : String) : Exc :=
  .csm ⟨.InvalidRequest, CSM_INVALID_REQUEST, some desc, some "MalformedRequest", none⟩

/-! ## The file cache -/

/-- `uuid.uuid4().hex`, for each call in turn. -/
structure UuidSource where
  hex : Nat → String
  injective : Function.Injective hex
  noDot : ∀ n, '.' ∉ (hex n).toList

/-- The cache directory, the streams that are open for writing, by the names of their files,
and the `FileCache`.  A stream is given by its file. -/
structure Upload where
  files : Dict String Bytes
  streams : List String
  files_uuids : List String
  current_writing_file_uuid : Option String
  current_writing_file_stream : Option String
  drawn : Nat

namespace Upload

/-- A new `FileCache`. -/
def start (files : Dict String Bytes) (drawn : Nat) : Upload := ⟨files, [], [], none, none, drawn⟩

def openFile (s : Upload) (file_uuid : String) : Upload :=
  { s with
    files := s.files.set file_uuid []
    streams := file_uuid :: s.streams
    files_uuids := s.files_uuids ++ [file_uuid]
    current_writing_file_uuid := some file_uuid
    current_writing_file_stream := some file_uuid
    drawn := s.drawn + 1 }

def write (s : Upload) (stream : String) (chunk : Bytes) : Upload :=
  { s with files := s.files.set stream ((s.files.get? stream).getD [] ++ chunk) }

def close (s : Upload) (stream : String) : Upload :=
  { s with
    streams := s.streams.filter (· ≠ stream)
    current_writing_file_stream := none
    current_writing_file_uuid := none }

end Upload

/-- The name of a cached file. -/
def cachedName (source : UuidSource) (drawn : Nat) (extension : String) : String :=
  if extension ≠ "" then source.hex drawn ++ "." ++ extension else source.hex drawn

namespace FileCache

def cache_new_file (source : UuidSource) (extension : String) : Raising Upload Exc String := do
  let s ← get
  if s.current_writing_file_stream.isSome then
    throw (.csm (csmInternalError
      "Trying to open new file stream for caching while another file is writing"))
  else
    let file_uuid := cachedName source s.drawn extension
    modify fun s => s.openFile file_uuid
    return file_uuid

/-- `__check_file_uuid`. -/
def check_file_uuid (s : Upload) (file_uuid_to_check : String) : Except Exc Unit :=
  if s.current_writing_file_uuid.any (· ≠ file_uuid_to_check) then
    .error (.csm (csmInternalError "Trying to write file to cache while another file is writing"))
  else .ok ()

def write_chunck (file_uuid : String) (chunk : Bytes) : Raising Upload Exc Unit := do
  let s ← get
  Raising.ofExcept (check_file_uuid s file_uuid)
  match s.current_writing_file_stream with
  | none => throw .attributeError
  | some stream => modify fun s => if chunk ≠ [] then s.write stream chunk else s.close stream

/-- `__exit__`; a file that is not there is passed over. -/
def exit (s : Upload) : Upload :=
  { s with
    streams := s.streams.filter fun stream => s.current_writing_file_stream ≠ some stream
    files := s.files_uuids.foldl (fun files file_uuid => files.pop file_uuid) s.files }

end FileCache

/-! ## The parts -/

/-- A part of the body, its headers and the chunks that `read_chunk` returns before the
empty ones. -/
structure Field where
  content_disposition : Option String
  content_type : Option String
  chunks : List Bytes

/-- An entry of the result; a file with its reference. -/
inductive ParseResult
  | file (content_type filename file_uuid : String)
  | content (content_type content : String)
  deriving DecidableEq

/-- The limits on the sizes. -/
structure Limits where
  content_byte_size_limit : Int
  file_byte_size_limit : Int

namespace CsmView

/-- `name="value"` of a header, for the directive `name`. -/
def directive (name message value : String) : Except Exc String :=
  match Text.split '=' value with
  | [key, text] =>
      if Text.strip isSpace key ≠ name ∨ text = "" then .error (badRequest message)
      else .ok (Text.strip (· = '"') text)
  | _ => .error (badRequest message)

/-- `__parse_multipart_part`: the names of the field and of the file. -/
def parse_multipart_part (field : Field) : Except Exc (String × Option String) := do
  let cd := field.content_disposition.getD ""
  if cd = "" then
    throw (badRequest "Content-Disposition is absent in one of multipart request parts")
  let cd_values := Text.split ';' cd
  if cd_values.head? ≠ some "form-data" then
    throw (badRequest "\"form-data\" is absent in one of multipart request parts")
  if (cd_values[1]?).getD "" = "" then
    throw (badRequest "Fieldname is absent in one of multipart request parts")
  let fieldname ← directive "name" "Incorrect fieldname directive in Content-Disposition header"
    ((cd_values[1]?).getD "")
  let filename ← match cd_values[2]? with
    | none => pure none
    | some value =>
        (directive "filename" "Incorrect filename directive in Content-Disposition header"
          value).map some
  if field.content_type.getD "" = "" then
    throw (badRequest "Content-Type is absent in one of multipart request parts")
  return (fieldname, filename)

/-- What `async for` gets: the chunks up to the first empty one. -/
def aiohttp_body_getter : List Bytes → List Bytes
  | [] => [[]]
  | chunk :: chunks => if chunk = [] then [chunk] else chunk :: aiohttp_body_getter chunks

def get_extension (filename : String) : String :=
  let parts := Text.split '.' filename
  if parts.length > 1 then parts.getLast?.getD "" else ""

/-- The extension that is preserved; `isalnum` is that of `str`, for one character. -/
def safe_extension (isalnum : Char → Bool) (filename : String) : String :=
  let extension := get_extension filename
  if extension.length > 10 ∨ ¬ (extension ≠ "" ∧ extension.toList.all isalnum) then ""
  else extension

/-- The loop over the chunks of a file. -/
def write_file (limits : Limits) (filename file_uuid : String) :
    Nat → List Bytes → Raising Upload Exc Unit
  | _, [] => pure ()
  | size, chunk :: chunks =>
      let size := size + chunk.length
      if (size : Int) > limits.file_byte_size_limit then
        throw (badRequest ("File \"" ++ filename ++ "\" is bigger than permissible limit. Max size = "
          ++ toString limits.file_byte_size_limit ++ " bytes"))
      else do
        FileCache.write_chunck file_uuid chunk
        write_file limits filename file_uuid size chunks

/-- The loop over the chunks of any other part. -/
def read_content (limits : Limits) (fieldname : String) :
    Nat → Bytes → List Bytes → Except Exc Bytes
  | _, content, [] => .ok content
  | size, content, chunk :: chunks =>
      if (size : Int) > limits.content_byte_size_limit then
        .error (badRequest ("Field \"" ++ fieldname ++ "\" is bigger than permissible limit. Max size = "
          ++ toString limits.content_byte_size_limit ++ " bytes"))
      else read_content limits fieldname (size + chunk.length) (content ++ chunk) chunks

section

variable (source : UuidSource) (isalnum : Char → Bool) (limits : Limits) (ct : String)

def read_file (filename : String) (field : Field) : Raising Upload Exc ParseResult := do
  let file_uuid ← FileCache.cache_new_file source (safe_extension isalnum filename)
  write_file limits filename file_uuid 0 (aiohttp_body_getter field.chunks)
  return .file ct filename file_uuid

def read_text (fieldname : String) (field : Field) : Except Exc ParseResult := do
  let content ← read_content limits fieldname 0 [] (aiohttp_body_getter field.chunks)
  match decode content with
  | none => throw .valueError
  | some text => return .content ct text

/-- `if filename`: a part without a file name, or with an empty one, is no file. -/
def read_part (fieldname : String) (filename : Option String) (field : Field) :
    Raising Upload Exc ParseResult :=
  match filename with
  | none => Raising.ofExcept (read_text limits ct fieldname field)
  | some filename =>
      if filename = "" then Raising.ofExcept (read_text limits ct fieldname field)
      else read_file source isalnum limits ct filename field

/-- The loop over the parts. -/
def parse_fields : Dict String ParseResult → List Field →
    Raising Upload Exc (Dict String ParseResult)
  | parse_results, [] => pure parse_results
  | parse_results, field :: fields => do
      let named ← Raising.ofExcept (parse_multipart_part field)
      if named.1 ∈ parse_results.keys then
        throw (badRequest ("Repeated fieldname in multipart request. " ++
          "Multiple attribute are not supported for now."))
      else
        let parse_result ← read_part source isalnum limits ct named.1 named.2 field
        parse_fields (parse_results.set named.1 parse_result) fields

end

def parse_multipart_request (source : UuidSource) (isalnum : Char → Bool) (limits : Limits)
    (ct : Option String) (fields : List Field) : Raising Upload Exc (Dict String ParseResult) :=
  match ct with
  | none => throw (badRequest "\"multipart\" header is absent")
  | some ct =>
      if "multipart/form-data;".toList <:+: ct.toList then
        parse_fields source isalnum limits ct Table.empty fields
      else throw (badRequest "\"multipart\" header is absent")

end CsmView

/-! ## The cache is tidy -/

/-- The name before the extension is the one that was drawn. -/
theorem cachedName_hex (source : UuidSource) (n : Nat) (extension : String) :
    (cachedName source n extension).toList.takeWhile (· ≠ '.') = (source.hex n).toList := by
  have hall : ∀ c ∈ (source.hex n).toList, decide (c ≠ '.') = true := by
    intro c hc
    exact decide_eq_true fun e => source.noDot n (e ▸ hc)
  unfold cachedName
  split
  · rw [String.toList_append, String.toList_append, List.append_assoc,
      List.takeWhile_append_of_pos hall]
    simp
  · exact List.takeWhile_eq_self_iff.mpr hall

theorem cachedName_inj {source : UuidSource} {n m : Nat} {extension extension' : String}
    (h : cachedName source n extension = cachedName source m extension') : n = m := by
  have hhex := congrArg (fun name : String => name.toList.takeWhile (· ≠ '.')) h
  simp only [cachedName_hex] at hhex
  exact source.injective (String.toList_inj.mp hhex)

namespace Upload

/-- The one stream that may be open is the one being written, to a file of the cache; what is
not of the cache is as it was; and the names of the cache were drawn. -/
structure Tidy (source : UuidSource) (base : Dict String Bytes) (s : Upload) : Prop where
  streams : s.streams = s.current_writing_file_stream.toList
  uuid : s.current_writing_file_uuid = s.current_writing_file_stream
  cached : ∀ stream ∈ s.current_writing_file_stream, stream ∈ s.files_uuids
  others : ∀ name, name ∉ s.files_uuids → s.files.get? name = base.get? name
  names : ∀ name ∈ s.files_uuids, ∃ n < s.drawn, ∃ extension, name = cachedName source n extension

variable {source : UuidSource} {base : Dict String Bytes} {s : Upload}

theorem tidy_start (drawn : Nat) : Tidy source base (start base drawn) where
  streams := rfl
  uuid := rfl
  cached _ h := by cases h
  others _ _ := rfl
  names _ h := by cases h

theorem Tidy.openFile (h : Tidy source base s) (hidle : s.current_writing_file_stream = none)
    (extension : String) : Tidy source base (s.openFile (cachedName source s.drawn extension)) where
  streams := by
    have hstreams := h.streams
    rw [hidle] at hstreams
    exact congrArg (_ :: ·) hstreams
  uuid := rfl
  cached stream hstream := by
    obtain rfl := Option.some.inj hstream
    exact List.mem_append_right _ List.mem_cons_self
  others name hname := by
    have hnot : name ∉ s.files_uuids := fun hmem => hname (List.mem_append_left _ hmem)
    have hne : cachedName source s.drawn extension ≠ name := by
      rintro rfl
      exact hname (List.mem_append_right _ List.mem_cons_self)
    exact (Table.get?_set _ _ _ _).trans ((if_neg hne).trans (h.others name hnot))
  names name hname := by
    rcases List.mem_append.mp hname with hname | hname
    · obtain ⟨n, hn, extension', rfl⟩ := h.names name hname
      exact ⟨n, Nat.lt_succ_of_lt hn, extension', rfl⟩
    · exact ⟨s.drawn, Nat.lt_succ_self _, extension, List.mem_singleton.mp hname⟩

theorem Tidy.write (h : Tidy source base s) {stream : String}
    (hstream : s.current_writing_file_stream = some stream) (chunk : Bytes) :
    Tidy source base (s.write stream chunk) where
  streams := h.streams
  uuid := h.uuid
  cached := h.cached
  others name hname := by
    have hne : stream ≠ name := by
      rintro rfl
      exact hname (h.cached stream hstream)
    exact (Table.get?_set _ _ _ _).trans ((if_neg hne).trans (h.others name hname))
  names := h.names

theorem Tidy.close (h : Tidy source base s) {stream : String}
    (hstream : s.current_writing_file_stream = some stream) :
    Tidy source base (s.close stream) where
  streams := by
    have hstreams := h.streams
    rw [hstream] at hstreams
    simp [Upload.close, hstreams]
  uuid := rfl
  cached _ hnone := by cases hnone
  others := h.others
  names := h.names

/-- The cache is left: no stream is open, and there is nothing but what is not of the
cache. -/
theorem Tidy.exit (h : Tidy source base s) : (FileCache.exit s).streams = [] ∧
    ∀ name, (FileCache.exit s).files.get? name =
      if name ∈ s.files_uuids then none else base.get? name := by
  constructor
  · rw [FileCache.exit, h.streams]
    cases s.current_writing_file_stream with
    | none => rfl
    | some stream => simp
  · intro name
    have hpops : (FileCache.exit s).files.get? name =
        if name ∈ s.files_uuids then none else s.files.get? name :=
      @Table.get?_foldl_pointwise _ _ _ _ (fun _ _ => none) Table.get?_pop (fun _ _ => rfl)
        s.files_uuids s.files name
    rw [hpops]
    split
    · rfl
    · rename_i hname
      exact h.others name hname

end Upload

/-! ## Every step keeps the cache tidy -/

section

open Upload

variable {source : UuidSource} {base : Dict String Bytes} {isalnum : Char → Bool}
  {limits : Limits} {ct : String}

theorem keeps_cache_new_file (extension : String) :
    Raising.Keeps (Tidy source base) (FileCache.cache_new_file source extension) := by
  refine Raising.Keeps.read ?_
  intro s hs
  split
  · exact hs
  · rename_i hidle
    exact hs.openFile (by simpa using hidle) extension

theorem keeps_write_chunck (file_uuid : String) (chunk : Bytes) :
    Raising.Keeps (Tidy source base) (FileCache.write_chunck file_uuid chunk) := by
  refine Raising.Keeps.read ?_
  intro s hs
  cases FileCache.check_file_uuid s file_uuid with
  | error e => exact hs
  | ok u =>
      cases hstream : s.current_writing_file_stream with
      | none => exact hs
      | some stream =>
          show Tidy source base (if chunk ≠ [] then s.write stream chunk else s.close stream)
          split
          · exact hs.write hstream chunk
          · exact hs.close hstream

theorem keeps_write_file (filename file_uuid : String) : ∀ (size : Nat) (chunks : List Bytes),
    Raising.Keeps (Tidy source base) (CsmView.write_file limits filename file_uuid size chunks)
  | _, [] => .ret ()
  | _, chunk :: chunks => .ite (fun _ => .raise _) fun _ =>
      .bind (keeps_write_chunck file_uuid chunk) fun _ => keeps_write_file filename file_uuid _ chunks

theorem keeps_read_part (fieldname : String) (filename : Option String) (field : Field) :
    Raising.Keeps (Tidy source base)
      (CsmView.read_part source isalnum limits ct fieldname filename field) := by
  cases filename with
  | none => exact .ofExcept _
  | some filename =>
      refine .ite (fun _ => .ofExcept _) fun _ => ?_
      refine .bind (keeps_cache_new_file _) fun file_uuid => ?_
      exact .bind (keeps_write_file filename file_uuid 0 _) fun _ => .ret _

theorem keeps_parse_fields : ∀ (parse_results : Dict String ParseResult) (fields : List Field),
    Raising.Keeps (Tidy source base)
      (CsmView.parse_fields source isalnum limits ct parse_results fields)
  | _, [] => .ret _
  | _, field :: fields => .bind (.ofExcept _) fun named => .ite (fun _ => .raise _) fun _ =>
      .bind (keeps_read_part named.1 named.2 field) fun _ => keeps_parse_fields _ fields

/-- However a request is read, and however that ends, the cache is tidy after it. -/
theorem keeps_parse_multipart_request (ct : Option String) (fields : List Field) :
    Raising.Keeps (Tidy source base)
      (CsmView.parse_multipart_request source isalnum limits ct fields) := by
  cases ct with
  | none => exact .raise _
  | some ct => exact .ite (fun _ => keeps_parse_fields _ fields) fun _ => .raise _

end

/-! ## What is read -/

namespace Field

/-- All bytes of a part. -/
def bytes (field : Field) : Bytes := field.chunks.flatten

end Field

theorem aiohttp_body_getter_eq {chunks : List Bytes} (h : ∀ chunk ∈ chunks, chunk ≠ []) :
    CsmView.aiohttp_body_getter chunks = chunks ++ [[]] := by
  induction chunks with
  | nil => rfl
  | cons chunk chunks ih =>
      rw [CsmView.aiohttp_body_getter, if_neg (h chunk List.mem_cons_self),
        ih fun c hc => h c (List.mem_cons_of_mem _ hc)]
      rfl

/-- What a field, or a file, that is too big is refused with. -/
def fieldTooBig (limits : Limits) (fieldname : String) : Exc :=
  badRequest ("Field \"" ++ fieldname ++ "\" is bigger than permissible limit. Max size = "
    ++ toString limits.content_byte_size_limit ++ " bytes")

def fileTooBig (limits : Limits) (filename : String) : Exc :=
  badRequest ("File \"" ++ filename ++ "\" is bigger than permissible limit. Max size = "
    ++ toString limits.file_byte_size_limit ++ " bytes")

/-- A field that is no file, whatever its chunks are. -/
theorem read_content_eq (limits : Limits) (fieldname : String) : ∀ (size : Nat)
    (content : Bytes) (chunks : List Bytes),
    CsmView.read_content limits fieldname size content (chunks ++ [[]]) =
      if ((size + chunks.flatten.length : Nat) : Int) > limits.content_byte_size_limit then
        .error (fieldTooBig limits fieldname)
      else .ok (content ++ chunks.flatten)
  | size, content, [] => by
      simp [CsmView.read_content, fieldTooBig]
  | size, content, chunk :: chunks => by
      have ih := read_content_eq limits fieldname (size + chunk.length) (content ++ chunk) chunks
      rw [List.cons_append, CsmView.read_content, ih, List.flatten_cons, List.length_append,
        ← Nat.add_assoc, List.append_assoc]
      split
      · rename_i hbig
        rw [if_pos (by omega)]
        rfl
      · rfl

namespace Upload

/-- No stream is open, and none is being written. -/
structure Idle (s : Upload) : Prop where
  streams : s.streams = []
  uuid : s.current_writing_file_uuid = none
  stream : s.current_writing_file_stream = none

/-- `s` with a new file, these bytes in it so far. -/
def writing (s : Upload) (file_uuid : String) (bytes : Bytes) : Upload :=
  { s.openFile file_uuid with files := s.files.set file_uuid bytes }

/-- The same, closed. -/
def written (s : Upload) (file_uuid : String) (bytes : Bytes) : Upload :=
  { s with
    files := s.files.set file_uuid bytes
    files_uuids := s.files_uuids ++ [file_uuid]
    drawn := s.drawn + 1 }

end Upload

section

open Upload

variable {s : Upload} {file_uuid : String}

theorem cache_new_file_idle (source : UuidSource) (h : s.Idle) (extension : String) :
    FileCache.cache_new_file source extension s =
      (.ok (cachedName source s.drawn extension),
        s.writing (cachedName source s.drawn extension) []) := by
  rw [FileCache.cache_new_file]
  show (if s.current_writing_file_stream.isSome then _ else _ : Raising Upload Exc String) s = _
  rw [h.stream]
  rfl

theorem write_writing (bytes chunk : Bytes) :
    (s.writing file_uuid bytes).write file_uuid chunk = s.writing file_uuid (bytes ++ chunk) := by
  have hget : (s.files.set file_uuid bytes).get? file_uuid = some bytes := by simp
  have hset := Table.upsert_upsert s.files
    (show (file_uuid, bytes).1 = (file_uuid, bytes ++ chunk).1 from rfl)
  simp only [Upload.write, writing, hget, Option.getD_some]
  exact congrArg (fun files => { s.openFile file_uuid with files := files }) hset

theorem close_writing (h : s.Idle) (bytes : Bytes) :
    (s.writing file_uuid bytes).close file_uuid = s.written file_uuid bytes := by
  simp [Upload.close, writing, written, openFile, h.streams, h.uuid, h.stream]

theorem write_chunck_writing (bytes chunk : Bytes) :
    FileCache.write_chunck file_uuid chunk (s.writing file_uuid bytes) =
      (.ok (), if chunk ≠ [] then s.writing file_uuid (bytes ++ chunk)
        else (s.writing file_uuid bytes).close file_uuid) := by
  have hcheck : FileCache.check_file_uuid (s.writing file_uuid bytes) file_uuid = .ok () := by
    simp [FileCache.check_file_uuid, writing, openFile]
  show (Raising.ofExcept (FileCache.check_file_uuid (s.writing file_uuid bytes) file_uuid) >>=
    fun _ => _ : Raising Upload Exc Unit) _ = _
  rw [hcheck, ← write_writing]
  rfl

variable (limits : Limits) (filename : String)

/-- A file, whatever its chunks are, as long as only the last is empty. -/
theorem write_file_eq (h : s.Idle) (file_uuid : String) : ∀ (size : Nat) (bytes : Bytes) (chunks : List Bytes),
    (∀ chunk ∈ chunks, chunk ≠ []) →
    if ((size + chunks.flatten.length : Nat) : Int) > limits.file_byte_size_limit then
      ∃ s', CsmView.write_file limits filename file_uuid size (chunks ++ [[]])
        (s.writing file_uuid bytes) = (.error (fileTooBig limits filename), s')
    else
      CsmView.write_file limits filename file_uuid size (chunks ++ [[]])
        (s.writing file_uuid bytes) = (.ok (), s.written file_uuid (bytes ++ chunks.flatten))
  | size, bytes, [], _ => by
      rw [List.flatten_nil, List.append_nil, List.nil_append, CsmView.write_file]
      simp only [List.length_nil, Nat.add_zero]
      split
      · exact ⟨_, rfl⟩
      · refine (Raising.bind_ok (write_chunck_writing bytes [])).trans ?_
        rw [if_neg (not_not.mpr rfl), close_writing h]
        rfl
  | size, bytes, chunk :: chunks, hne => by
      have ih := write_file_eq h file_uuid (size + chunk.length) (bytes ++ chunk) chunks
        fun c hc => hne c (List.mem_cons_of_mem _ hc)
      rw [List.cons_append, CsmView.write_file, List.flatten_cons, List.length_append,
        ← Nat.add_assoc, ← List.append_assoc]
      by_cases hsize : ((size + chunk.length : Nat) : Int) > limits.file_byte_size_limit
      · rw [if_pos (by omega), if_pos hsize]
        exact ⟨_, rfl⟩
      · rw [if_neg hsize, Raising.bind_ok (write_chunck_writing bytes chunk),
          if_pos (hne chunk List.mem_cons_self)]
        exact ih

end

/-! ## Requests -/

/-- A part with a field name, whose bytes the reader splits into chunks that are not empty.
The bytes of one that is no file are a text. -/
structure FormPart where
  field : Field
  fieldname : String
  filename : Option String
  parsed : CsmView.parse_multipart_part field = .ok (fieldname, filename)
  nonempty : ∀ chunk ∈ field.chunks, chunk ≠ []
  text : filename.getD "" = "" → ∃ text, decode field.bytes = some text

/-- A multipart request whose parts have different names. -/
structure Form where
  content_type : String
  multipart : "multipart/form-data;".toList <:+: content_type.toList
  parts : List FormPart
  distinct : (parts.map FormPart.fieldname).Nodup

namespace FormPart

variable (part : FormPart) (limits : Limits)

def IsFile : Prop := part.filename.getD "" ≠ ""

instance : Decidable part.IsFile := inferInstanceAs (Decidable (_ ≠ _))

/-- The limit that is meant for the part. -/
def limit : Int :=
  if part.IsFile then limits.file_byte_size_limit else limits.content_byte_size_limit

def Fits : Prop := (part.field.bytes.length : Int) ≤ part.limit limits

instance : Decidable (part.Fits limits) := inferInstanceAs (Decidable (_ ≤ _))

theorem fits_iff_file {part : FormPart} (h : part.IsFile) :
    part.Fits limits ↔ ¬ (part.field.chunks.flatten.length : Int) > limits.file_byte_size_limit := by
  rw [Fits, limit, if_pos h, Field.bytes]
  omega

theorem fits_iff_content {part : FormPart} (h : ¬ part.IsFile) :
    part.Fits limits ↔ ¬ (part.field.chunks.flatten.length : Int) > limits.content_byte_size_limit := by
  rw [Fits, limit, if_neg h, Field.bytes]
  omega

/-- The error that names the part, and its limit. -/
def refusal : Exc :=
  if part.IsFile then fileTooBig limits (part.filename.getD "") else fieldTooBig limits part.fieldname

/-- What the part is to be read as: the file that has all its bytes, or its text. -/
structure ReadAs (ct : String) (s : Upload) (result : ParseResult) : Prop where
  file : part.IsFile → ∃ file_uuid ∈ s.files_uuids,
    result = .file ct (part.filename.getD "") file_uuid ∧
      s.files.get? file_uuid = some part.field.bytes
  content : ¬ part.IsFile → ∃ text, decode part.field.bytes = some text ∧ result = .content ct text

end FormPart

/-- The cached files of `s` are in `s'`, with the same bytes. -/
def Upload.Grows (s s' : Upload) : Prop :=
  ∀ name ∈ s.files_uuids, name ∈ s'.files_uuids ∧ s'.files.get? name = s.files.get? name

theorem Upload.Grows.refl (s : Upload) : s.Grows s := fun _ h => ⟨h, rfl⟩

theorem Upload.Grows.trans {s s' s'' : Upload} (h : s.Grows s') (h' : s'.Grows s'') :
    s.Grows s'' := by
  intro name hname
  obtain ⟨hmem, hget⟩ := h name hname
  obtain ⟨hmem', hget'⟩ := h' name hmem
  exact ⟨hmem', hget'.trans hget⟩

theorem FormPart.ReadAs.grows {part : FormPart} {ct : String} {s s' : Upload}
    {result : ParseResult} (h : part.ReadAs ct s result) (hgrows : s.Grows s') :
    part.ReadAs ct s' result where
  file hfile := by
    obtain ⟨file_uuid, hmem, hresult, hget⟩ := h.file hfile
    obtain ⟨hmem', hget'⟩ := hgrows file_uuid hmem
    exact ⟨file_uuid, hmem', hresult, hget'.trans hget⟩
  content := h.content

section

open Upload

variable {source : UuidSource} {base : Dict String Bytes} {isalnum : Char → Bool}
  {limits : Limits} {ct : String} {s : Upload}

theorem read_text_eq (limits : Limits) (ct : String) {part : FormPart} (h : ¬ part.IsFile)
    {text : String} (htext : decode part.field.bytes = some text) :
    CsmView.read_text limits ct part.fieldname part.field =
      if part.Fits limits then .ok (.content ct text) else .error (part.refusal limits) := by
  have hlimit := FormPart.fits_iff_content limits h
  have hrefusal : part.refusal limits = fieldTooBig limits part.fieldname := if_neg h
  have hcontent := read_content_eq limits part.fieldname 0 [] part.field.chunks
  rw [Nat.zero_add, List.nil_append] at hcontent
  rw [CsmView.read_text, aiohttp_body_getter_eq part.nonempty, hcontent, hrefusal]
  by_cases hfits : part.Fits limits
  · rw [if_neg (hlimit.mp hfits), if_pos hfits]
    show (match decode part.field.bytes with | none => _ | some text => _) = _
    rw [htext]
    rfl
  · rw [if_pos (not_not.mp fun hle => hfits (hlimit.mpr hle)), if_neg hfits]
    rfl

/-- The three ways through `read_part`. -/
theorem read_part_content {part : FormPart} (h : ¬ part.IsFile) :
    CsmView.read_part source isalnum limits ct part.fieldname part.filename part.field =
      Raising.ofExcept (CsmView.read_text limits ct part.fieldname part.field) := by
  have hname : part.filename.getD "" = "" := not_not.mp h
  cases hfilename : part.filename with
  | none => rfl
  | some filename =>
      rw [hfilename] at hname
      exact if_pos hname

theorem read_part_file {part : FormPart} (h : part.IsFile) :
    CsmView.read_part source isalnum limits ct part.fieldname part.filename part.field =
      CsmView.read_file source isalnum limits ct (part.filename.getD "") part.field := by
  cases hfilename : part.filename with
  | none => exact absurd (by rw [hfilename]; rfl) h
  | some filename =>
      have hname : filename ≠ "" := by
        intro e
        exact h (by rw [hfilename]; exact e)
      exact if_neg hname

variable (isalnum ct) in
/-- A part that fits is read; one that does not is refused. -/
theorem read_part_fits (hs : s.Idle) (htidy : Tidy source base s) {part : FormPart}
    (hfits : part.Fits limits) : ∃ result s',
      CsmView.read_part source isalnum limits ct part.fieldname part.filename part.field s =
        (.ok result, s') ∧ s'.Idle ∧ s.Grows s' ∧ part.ReadAs ct s' result := by
  by_cases hfile : part.IsFile
  · rw [read_part_file hfile, CsmView.read_file, aiohttp_body_getter_eq part.nonempty,
      Raising.bind_ok (cache_new_file_idle source hs _)]
    have hlimit := FormPart.fits_iff_file limits hfile
    have hwrite := write_file_eq limits (part.filename.getD "") hs
      (cachedName source s.drawn (CsmView.safe_extension isalnum (part.filename.getD ""))) 0 []
      part.field.chunks part.nonempty
    rw [Nat.zero_add, List.nil_append, if_neg (hlimit.mp hfits)] at hwrite
    rw [Raising.bind_ok hwrite]
    refine ⟨_, _, rfl, ⟨hs.streams, hs.uuid, hs.stream⟩, ?_, ?_⟩
    · intro name hname
      refine ⟨List.mem_append_left _ hname, ?_⟩
      obtain ⟨n, hn, extension, rfl⟩ := htidy.names name hname
      refine (Table.get?_set _ _ _ _).trans (if_neg ?_)
      intro e
      rw [cachedName_inj e] at hn
      exact Nat.lt_irrefl _ hn
    · refine ⟨fun _ => ⟨_, List.mem_append_right _ List.mem_cons_self, rfl, ?_⟩, ?_⟩
      · exact (Table.get?_set _ _ _ _).trans (if_pos rfl)
      · intro h
        exact absurd hfile h
  · obtain ⟨text, htext⟩ := part.text (not_not.mp hfile)
    rw [read_part_content hfile, read_text_eq limits ct hfile htext, if_pos hfits]
    refine ⟨_, s, rfl, hs, .refl s, ?_, fun _ => ⟨text, htext, rfl⟩⟩
    intro h
    exact absurd h hfile

variable (source isalnum ct) in
theorem read_part_refused (hs : s.Idle) {part : FormPart}
    (hfits : ¬ part.Fits limits) : ∃ s',
      CsmView.read_part source isalnum limits ct part.fieldname part.filename part.field s =
        (.error (part.refusal limits), s') := by
  by_cases hfile : part.IsFile
  · rw [read_part_file hfile, CsmView.read_file, aiohttp_body_getter_eq part.nonempty,
      Raising.bind_ok (cache_new_file_idle source hs _)]
    have hlimit := FormPart.fits_iff_file limits hfile
    have hwrite := write_file_eq limits (part.filename.getD "") hs
      (cachedName source s.drawn (CsmView.safe_extension isalnum (part.filename.getD ""))) 0 []
      part.field.chunks part.nonempty
    rw [Nat.zero_add, if_pos (not_not.mp fun hle => hfits (hlimit.mpr hle))] at hwrite
    obtain ⟨s', hwrite⟩ := hwrite
    rw [Raising.bind_error hwrite]
    have hrefusal : part.refusal limits = fileTooBig limits (part.filename.getD "") := if_pos hfile
    exact ⟨s', by rw [hrefusal]⟩
  · obtain ⟨text, htext⟩ := part.text (not_not.mp hfile)
    rw [read_part_content hfile, read_text_eq limits ct hfile htext, if_neg hfits]
    exact ⟨s, rfl⟩

/-! ## All parts -/

theorem parse_fields_cons (part : FormPart) {parse_results : Dict String ParseResult}
    (hnew : part.fieldname ∉ parse_results.keys) (fields : List Field) (s : Upload) :
    CsmView.parse_fields source isalnum limits ct parse_results (part.field :: fields) s =
      (CsmView.read_part source isalnum limits ct part.fieldname part.filename part.field >>=
        fun parse_result => CsmView.parse_fields source isalnum limits ct
          (parse_results.set part.fieldname parse_result) fields) s := by
  have hparsed : (Raising.ofExcept (CsmView.parse_multipart_part part.field) :
      Raising Upload Exc (String × Option String)) s =
        (.ok (part.fieldname, part.filename), s) := by
    rw [part.parsed]
    rfl
  rw [CsmView.parse_fields, Raising.bind_ok hparsed, if_neg hnew]

/-- The names of the parts are new, and no two are one. -/
def NewNames (parse_results : Dict String ParseResult) (parts : List FormPart) : Prop :=
  (parts.map FormPart.fieldname).Nodup ∧ ∀ part ∈ parts, part.fieldname ∉ parse_results.keys

theorem NewNames.tail {parse_results : Dict String ParseResult} {part : FormPart}
    {parts : List FormPart} (h : NewNames parse_results (part :: parts))
    (parse_result : ParseResult) :
    NewNames (parse_results.set part.fieldname parse_result) parts := by
  obtain ⟨hnodup, hnew⟩ := h
  rw [List.map_cons, List.nodup_cons] at hnodup
  refine ⟨hnodup.2, ?_⟩
  intro other hother hmem
  have hne : other.fieldname ≠ part.fieldname := by
    intro e
    exact hnodup.1 (e ▸ List.mem_map_of_mem hother)
  have hold : other.fieldname ∉ parse_results.keys := hnew other (List.mem_cons_of_mem _ hother)
  rw [← Table.get?_eq_none] at hold
  obtain ⟨v, hv⟩ := Table.mem_keys.mp hmem
  rw [Table.get?_set, if_neg (Ne.symm hne), hold] at hv
  cases hv

variable (isalnum ct) in
/-- Where all parts fit, each is read, and no stream stays open. -/
theorem parse_fields_fits : ∀ {parts : List FormPart} {parse_results : Dict String ParseResult}
    {s : Upload}, s.Idle → Tidy source base s → NewNames parse_results parts →
    (∀ part ∈ parts, part.Fits limits) →
    ∃ results s', CsmView.parse_fields source isalnum limits ct parse_results
        (parts.map FormPart.field) s = (.ok results, s') ∧
      s'.Idle ∧ s.Grows s' ∧
      (∀ name ∈ parse_results.keys, results.get? name = parse_results.get? name) ∧
      ∀ part ∈ parts, ∃ result, results.get? part.fieldname = some result ∧
        part.ReadAs ct s' result
  | [], parse_results, s, hs, _, _, _ =>
      ⟨parse_results, s, rfl, hs, .refl s, fun _ _ => rfl, fun _ h => by cases h⟩
  | part :: parts, parse_results, s, hs, htidy, hnew, hfits => by
      obtain ⟨result, s₁, hread, hs₁, hgrows, hresult⟩ :=
        read_part_fits isalnum ct hs htidy (hfits part List.mem_cons_self)
      have htidy₁ : Tidy source base s₁ :=
        (keeps_read_part part.fieldname part.filename part.field).after htidy hread
      obtain ⟨results, s', hrest, hs', hgrows', hkept, hreads⟩ :=
        parse_fields_fits hs₁ htidy₁ (hnew.tail result) fun other hother =>
          hfits other (List.mem_cons_of_mem _ hother)
      have hpart : part.fieldname ∉ parse_results.keys := hnew.2 part List.mem_cons_self
      refine ⟨results, s', ?_, hs', hgrows.trans hgrows', ?_, ?_⟩
      · rw [List.map_cons, parse_fields_cons part hpart, Raising.bind_ok hread]
        exact hrest
      · intro name hname
        have hne : part.fieldname ≠ name := by
          rintro rfl
          exact hpart hname
        have hset : name ∈ (parse_results.set part.fieldname result).keys := by
          obtain ⟨v, hv⟩ := Table.mem_keys.mp hname
          exact Table.mem_keys.mpr ⟨v, by rw [Table.get?_set, if_neg hne, hv]⟩
        rw [hkept name hset, Table.get?_set, if_neg hne]
      · intro other hother
        rcases List.mem_cons.mp hother with rfl | hother
        · have hset : other.fieldname ∈ (parse_results.set other.fieldname result).keys :=
            Table.mem_keys.mpr ⟨result, by rw [Table.get?_set, if_pos rfl]⟩
          refine ⟨result, ?_, hresult.grows hgrows'⟩
          rw [hkept _ hset, Table.get?_set, if_pos rfl]
        · exact hreads other hother

variable (isalnum ct) in
/-- Where one does not fit, the request is refused, and the error names such a part. -/
theorem parse_fields_refused : ∀ {parts : List FormPart}
    {parse_results : Dict String ParseResult} {s : Upload}, s.Idle → Tidy source base s →
    NewNames parse_results parts → (∃ part ∈ parts, ¬ part.Fits limits) →
    ∃ part ∈ parts, ¬ part.Fits limits ∧ ∃ s',
      CsmView.parse_fields source isalnum limits ct parse_results (parts.map FormPart.field) s =
        (.error (part.refusal limits), s')
  | [], _, _, _, _, _, h => by
      obtain ⟨part, hpart, _⟩ := h
      cases hpart
  | part :: parts, parse_results, s, hs, htidy, hnew, hbig => by
      have hpart : part.fieldname ∉ parse_results.keys := hnew.2 part List.mem_cons_self
      by_cases hfits : part.Fits limits
      · obtain ⟨result, s₁, hread, hs₁, _, _⟩ := read_part_fits isalnum ct hs htidy hfits
        have htidy₁ : Tidy source base s₁ :=
          (keeps_read_part part.fieldname part.filename part.field).after htidy hread
        have hrest : ∃ other ∈ parts, ¬ other.Fits limits := by
          obtain ⟨other, hother, hno⟩ := hbig
          rcases List.mem_cons.mp hother with rfl | hother
          · exact absurd hfits hno
          · exact ⟨other, hother, hno⟩
        obtain ⟨other, hother, hno, s', hrefused⟩ :=
          parse_fields_refused hs₁ htidy₁ (hnew.tail result) hrest
        refine ⟨other, List.mem_cons_of_mem _ hother, hno, s', ?_⟩
        rw [List.map_cons, parse_fields_cons part hpart, Raising.bind_ok hread]
        exact hrefused
      · obtain ⟨s', hread⟩ := read_part_refused source isalnum ct hs hfits
        refine ⟨part, List.mem_cons_self, hfits, s', ?_⟩
        rw [List.map_cons, parse_fields_cons part hpart, Raising.bind_error hread]

section

variable {parts : List FormPart} {parse_results : Dict String ParseResult} {s s' : Upload}
  (hs : s.Idle) (htidy : Tidy source base s) (hnew : NewNames parse_results parts)

include hs htidy hnew

theorem fits_of_ok {results : Dict String ParseResult}
    (h : CsmView.parse_fields source isalnum limits ct parse_results
      (parts.map FormPart.field) s = (.ok results, s')) : ∀ part ∈ parts, part.Fits limits := by
  intro part hpart
  by_contra hbig
  obtain ⟨_, _, _, s'', hrun⟩ :=
    parse_fields_refused isalnum ct hs htidy hnew ⟨part, hpart, hbig⟩
  rw [h] at hrun
  cases hrun

theorem exists_not_fits_of_error {e : Exc}
    (h : CsmView.parse_fields source isalnum limits ct parse_results
      (parts.map FormPart.field) s = (.error e, s')) : ∃ part ∈ parts, ¬ part.Fits limits := by
  by_contra hno
  have hfits : ∀ part ∈ parts, part.Fits limits := by
    intro part hpart
    by_contra hbig
    exact hno ⟨part, hpart, hbig⟩
  obtain ⟨_, s'', hrun, _⟩ := parse_fields_fits isalnum ct hs htidy hnew hfits
  rw [h] at hrun
  cases hrun

end

/-- The parts are read one after the other. -/
theorem parse_fields_append (fields' : List Field) : ∀ (fields : List Field)
    (parse_results : Dict String ParseResult),
    CsmView.parse_fields source isalnum limits ct parse_results (fields ++ fields') =
      CsmView.parse_fields source isalnum limits ct parse_results fields >>= fun results =>
        CsmView.parse_fields source isalnum limits ct results fields'
  | [], _ => rfl
  | field :: fields, parse_results => by
      rw [List.cons_append, CsmView.parse_fields, CsmView.parse_fields, bind_assoc]
      refine congrArg _ (funext fun named => ?_)
      split
      · rfl
      · rw [bind_assoc]
        exact congrArg _ (funext fun result => parse_fields_append fields' fields _)

end

/-! ## What is asked of it -/

/-- What a new cache becomes when the request is read into it. -/
def readForm (source : UuidSource) (isalnum : Char → Bool) (limits : Limits) (form : Form)
    (s : Upload) : Except Exc (Dict String ParseResult) × Upload :=
  CsmView.parse_multipart_request source isalnum limits (some form.content_type)
    (form.parts.map FormPart.field) s

/-- A request is read as if each of its parts came in one piece. -/
structure ReadExactly (source : UuidSource) (isalnum : Char → Bool) (limits : Limits)
    (form : Form) (start : Upload) : Prop where
  rejected : (∃ e, (readForm source isalnum limits form start).1 = .error e) ↔
    ∃ part ∈ form.parts, ¬ part.Fits limits
  refusal : ∀ e, (readForm source isalnum limits form start).1 = .error e →
    ∃ part ∈ form.parts, ¬ part.Fits limits ∧ e = part.refusal limits
  accepted : ∀ results, (readForm source isalnum limits form start).1 = .ok results →
    ∀ part ∈ form.parts, ∃ result, results.get? part.fieldname = some result ∧
      part.ReadAs form.content_type (readForm source isalnum limits form start).2 result
  /-- When the rest of the request is read, no stream is open. -/
  closed : ∀ before rest, form.parts = before ++ rest → ∀ results s,
    CsmView.parse_fields source isalnum limits form.content_type Table.empty
        (before.map FormPart.field) start = (.ok results, s) →
      s.Idle ∧ readForm source isalnum limits form start =
        CsmView.parse_fields source isalnum limits form.content_type results
          (rest.map FormPart.field) s
  /-- After `__exit__` there is no cached file, no stream is open, and any other file of the
  directory is as it was. -/
  left : ∀ s, s = (readForm source isalnum limits form start).2 →
    (FileCache.exit s).streams = [] ∧
      (∀ name ∈ s.files_uuids, (FileCache.exit s).files.get? name = none) ∧
      ∀ name, name ∉ s.files_uuids → (FileCache.exit s).files.get? name = start.files.get? name

section

variable (source : UuidSource) (isalnum : Char → Bool) (limits : Limits) (form : Form)

theorem readForm_eq (s : Upload) : readForm source isalnum limits form s =
    CsmView.parse_fields source isalnum limits form.content_type Table.empty
      (form.parts.map FormPart.field) s :=
  congrFun (if_pos form.multipart) s

/-- The first parts have new names as well. -/
theorem Form.newNames {before rest : List FormPart} (h : form.parts = before ++ rest) :
    NewNames Table.empty before := by
  have hnodup := h ▸ form.distinct
  rw [List.map_append] at hnodup
  refine ⟨hnodup.of_append_left, ?_⟩
  intro part _ hmem
  cases hmem

variable (files : Dict String Bytes) (drawn : Nat)

theorem tidy_readForm : Upload.Tidy source files
    (readForm source isalnum limits form (.start files drawn)).2 :=
  keeps_parse_multipart_request _ _ _ (Upload.tidy_start drawn)

/-- Between the first parts and the rest, no stream is open. -/
theorem idle_before_rest {before rest : List FormPart} (hparts : form.parts = before ++ rest)
    {results : Dict String ParseResult} {s : Upload}
    (hrun : CsmView.parse_fields source isalnum limits form.content_type Table.empty
      (before.map FormPart.field) (.start files drawn) = (.ok results, s)) :
    s.Idle ∧ readForm source isalnum limits form (.start files drawn) =
      CsmView.parse_fields source isalnum limits form.content_type results
        (rest.map FormPart.field) s := by
  have hidle : (Upload.start files drawn).Idle := ⟨rfl, rfl, rfl⟩
  have htidy : Upload.Tidy source files (.start files drawn) := Upload.tidy_start drawn
  have hnew := form.newNames hparts
  have hfits := fits_of_ok hidle htidy hnew hrun
  obtain ⟨results', s', hrun', hidle', _⟩ :=
    parse_fields_fits isalnum form.content_type hidle htidy hnew hfits
  rw [hrun] at hrun'
  obtain rfl := congrArg Prod.snd hrun'
  refine ⟨hidle', ?_⟩
  rw [readForm_eq, hparts, List.map_append, parse_fields_append, Raising.bind_ok hrun]

theorem multipart_read_exactly : ReadExactly source isalnum limits form (.start files drawn) := by
  have hidle : (Upload.start files drawn).Idle := ⟨rfl, rfl, rfl⟩
  have htidy : Upload.Tidy source files (.start files drawn) := Upload.tidy_start drawn
  have hnew : NewNames Table.empty form.parts := form.newNames (List.append_nil _).symm
  have hread := readForm_eq source isalnum limits form (.start files drawn)
  have herror : ∀ e, (readForm source isalnum limits form (.start files drawn)).1 = .error e →
      ∃ part ∈ form.parts, ¬ part.Fits limits := by
    intro e he
    rw [hread] at he
    exact exists_not_fits_of_error hidle htidy hnew (Prod.ext he rfl)
  refine ⟨?_, ?_, ?_, ?_, ?_⟩
  · constructor
    · rintro ⟨e, he⟩
      exact herror e he
    · intro hbig
      obtain ⟨part, _, _, s', hrun⟩ :=
        parse_fields_refused isalnum form.content_type hidle htidy hnew hbig
      exact ⟨part.refusal limits, by rw [hread, hrun]⟩
  · intro e he
    obtain ⟨part, hpart, hno, s', hrun⟩ :=
      parse_fields_refused isalnum form.content_type hidle htidy hnew (herror e he)
    rw [hread, hrun] at he
    exact ⟨part, hpart, hno, (Except.error.inj he).symm⟩
  · intro results hresults
    rw [hread] at hresults ⊢
    have hfits := fits_of_ok hidle htidy hnew (Prod.ext hresults rfl)
    obtain ⟨results', s', hrun, _, _, _, hreads⟩ :=
      parse_fields_fits isalnum form.content_type hidle htidy hnew hfits
    rw [hrun] at hresults ⊢
    obtain rfl := Except.ok.inj hresults
    exact hreads
  · intro before rest hparts results s hrun
    exact idle_before_rest source isalnum limits form files drawn hparts hrun
  · rintro s rfl
    obtain ⟨hstreams, hfiles⟩ := (tidy_readForm source isalnum limits form files drawn).exit
    refine ⟨hstreams, ?_, ?_⟩
    · intro name hname
      exact (hfiles name).trans (if_pos hname)
    · intro name hname
      exact (hfiles name).trans (if_neg hname)

end

/-- The n-th name is n strokes long. -/
def sampleUuids : UuidSource where
  hex n := String.ofList (List.replicate n 'f')
  injective n m h := by
    have hlength := congrArg List.length (String.ofList_inj.mp h)
    simpa using hlength
  noDot n := by
    rw [String.toList_ofList, List.mem_replicate]
    exact fun h => absurd h.2 (by decide)

/-- A file of six bytes, in three chunks. -/
def samplePackage : FormPart where
  field := ⟨some "form-data; name=\"package\"; filename=\"update.tar\"",
    some "application/x-tar", [[1, 2], [3], [4, 5, 6]]⟩
  fieldname := "package"
  filename := some "update.tar"
  parsed := by rfl
  nonempty := by decide
  text h := absurd h (by decide)

/-- The text 2.0, in two chunks. -/
def sampleVersion : FormPart where
  field := ⟨some "form-data; name=\"version\"", some "text/plain", [[50], [46, 48]]⟩
  fieldname := "version"
  filename := none
  parsed := by rfl
  nonempty := by decide
  text _ := ⟨"2.0", by rfl⟩

def sampleForm : Form where
  content_type := "multipart/form-data; boundary=b"
  multipart := by decide
  parts := [samplePackage, sampleVersion]
  distinct := by decide

/-- A limit of six bytes takes the file, whole; one of five refuses it. -/
theorem multipart_read_exactly_package :
    (∃ results, (readForm sampleUuids Char.isAlphanum ⟨3, 6⟩ sampleForm
        (.start Table.empty 0)).1 = .ok results ∧
      results.get? "version" = some (.content sampleForm.content_type "2.0") ∧
      ∃ file_uuid, results.get? "package" =
          some (.file sampleForm.content_type "update.tar" file_uuid) ∧
        (readForm sampleUuids Char.isAlphanum ⟨3, 6⟩ sampleForm
          (.start Table.empty 0)).2.files.get? file_uuid = some [1, 2, 3, 4, 5, 6]) ∧
    ∃ e, (readForm sampleUuids Char.isAlphanum ⟨3, 5⟩ sampleForm
      (.start Table.empty 0)).1 = .error e := by
  constructor
  · have hread := multipart_read_exactly sampleUuids Char.isAlphanum ⟨3, 6⟩ sampleForm
      Table.empty 0
    have hfits : ¬ ∃ part ∈ sampleForm.parts, ¬ part.Fits ⟨3, 6⟩ := by
      simp only [not_exists, not_and, not_not]
      decide
    have hok := mt hread.rejected.mp hfits
    cases hresult : (readForm sampleUuids Char.isAlphanum ⟨3, 6⟩ sampleForm
        (.start Table.empty 0)).1 with
    | error e => exact absurd ⟨e, hresult⟩ hok
    | ok results =>
        obtain ⟨file, hget, hfile⟩ := hread.accepted results hresult samplePackage (.head _)
        obtain ⟨text, hget', htext⟩ :=
          hread.accepted results hresult sampleVersion (.tail _ (.head _))
        obtain ⟨file_uuid, -, rfl, hbytes⟩ := hfile.file (by decide)
        obtain ⟨version, hdecode, rfl⟩ := htext.content (by decide)
        obtain rfl : "2.0" = version := Option.some.inj hdecode
        exact ⟨results, rfl, hget', file_uuid, hget, hbytes⟩
  · have hread := multipart_read_exactly sampleUuids Char.isAlphanum ⟨3, 5⟩ sampleForm
      Table.empty 0
    exact hread.rejected.mpr ⟨samplePackage, .head _, by decide⟩

end CortxCsm
