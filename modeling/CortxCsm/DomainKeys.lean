/-
# `CortxCsm.DomainKeys` — `archive/core/services/usl_certificate_manager.py`, `usl.py`

The USL domain key and the certificate for it: two files, each on the disk and in the secure
storage.  A file that the disk does not have is restored from the secure storage when it is
asked for.  The methods of `USLDomainCertificateManager` hold one lock; those of `UslService`
call several of them, and test in between.

| | |
| :-- | :-- |
| `archive/core/services/usl_certificate_manager.py` | `CertificateManager`, `USLDomainCertificateManager` |
| `archive/core/services/usl.py` | `post_`, `put_` and `delete_system_certificates` |

The domain manager has a secure storage, and its disk and its secure storage do what they are
asked to.  What `SecureStorage.store` does with a name in use when it is not to `force` is left
open: it refuses, or it overwrites.  A key is what is on the file, a certificate too; what the
two say is a parameter, `Cryptography`.

**Proved here.**

    each method of the manager, by what can be retrieved     (`has_file_triple`, …)
    the two files match whenever the lock is free            (`certificate_matches_key`)
-/
import CortxCsm.Errors
import CortxCsm.Lib.Lock

namespace CortxCsm

/-! ## Key material -/

/-- `UDS_CERTIFICATES`: two files in one directory. -/
structure UdsCertificates where
  domain_key : String
  domain_crt : String
  distinct : domain_key ≠ domain_crt

/-- The keys generated, in order, as PEM; and the public key, as PEM, of a private key that can
be loaded and of a certificate that can be. -/
structure Cryptography where
  generate_private_key : Nat → ByteArray
  load_pem_private_key : ByteArray → Option ByteArray
  load_pem_x509_certificate : ByteArray → Option ByteArray

structure KeyMaterial where
  disk : String → Option ByteArray
  secure : String → Option ByteArray

namespace KeyMaterial

/-- Write the file on the disk, or unlink it. -/
def onDisk (m : KeyMaterial) (filename : String) (data : Option ByteArray) : KeyMaterial :=
  { m with disk := Function.update m.disk filename data }

/-- Store the file in the secure storage, or delete it there. -/
def inSecure (m : KeyMaterial) (filename : String) (data : Option ByteArray) : KeyMaterial :=
  { m with secure := Function.update m.secure filename data }

/-- What there is to be had: the disk's file, or else the secure storage's. -/
def retrieve (m : KeyMaterial) (filename : String) : Option ByteArray :=
  (m.disk filename).or (m.secure filename)

variable {m : KeyMaterial} {filename other : String} {data : ByteArray}

theorem retrieve_of_disk (h : m.disk filename = some data) : m.retrieve filename = some data := by
  unfold retrieve
  rw [h]
  rfl

theorem retrieve_of_not_disk (h : m.disk filename = none) :
    m.retrieve filename = m.secure filename := by
  unfold retrieve
  rw [h]
  rfl

theorem retrieve_onDisk_ne {data : Option ByteArray} (h : other ≠ filename) :
    (m.onDisk filename data).retrieve other = m.retrieve other := by
  show (Function.update m.disk filename data other).or _ = _
  rw [Function.update_of_ne h]
  rfl

theorem retrieve_inSecure_ne {data : Option ByteArray} (h : other ≠ filename) :
    (m.inSecure filename data).retrieve other = m.retrieve other := by
  show (m.disk other).or (Function.update m.secure filename data other) = _
  rw [Function.update_of_ne h]
  rfl

theorem retrieve_write : (m.onDisk filename (some data)).retrieve filename = some data :=
  retrieve_of_disk (Function.update_self filename _ _)

theorem retrieve_unlink (h : m.secure filename = none) :
    (m.onDisk filename none).retrieve filename = none :=
  (retrieve_of_not_disk (Function.update_self filename _ _)).trans h

/-- Restoring a file changes nothing of what can be retrieved. -/
theorem retrieve_restore (hdisk : m.disk filename = none) (hsecure : m.secure filename = some data) :
    (m.onDisk filename (some data)).retrieve = m.retrieve := by
  funext other
  by_cases h : other = filename
  · subst h
    rw [retrieve_write, retrieve_of_not_disk hdisk, hsecure]
  · exact retrieve_onDisk_ne h

/-- What can be retrieved is `g`, up to the file that is under way. -/
def Apart (g : String → Option ByteArray) (filename : String) (m : KeyMaterial) : Prop :=
  ∀ other, other ≠ filename → m.retrieve other = g other

theorem Apart.inSecure {data : Option ByteArray} :
    Apart m.retrieve filename (m.inSecure filename data) := fun _ h => retrieve_inSecure_ne h

theorem Apart.onDisk {g : String → Option ByteArray} (h : Apart g filename m)
    {data data' : Option ByteArray} (hdata : (m.onDisk filename data).retrieve filename = data') :
    (m.onDisk filename data).retrieve = Function.update g filename data' := by
  funext other
  by_cases hother : other = filename
  · subst hother
    rw [Function.update_self, hdata]
  · rw [Function.update_of_ne hother, retrieve_onDisk_ne hother]
    exact h other hother

end KeyMaterial

/-! ## What is awaited -/

/-- `generated` counts the keys. -/
structure UslState where
  material : KeyMaterial
  lock : Bool
  generated : Nat

inductive UslError
  | csm (e : CsmError)
  | CertificateError (text : String)
  | keyError
  | fileNotFoundError
  | unicodeDecodeError
  deriving DecidableEq

inductive UslOp
  | lock_acquire
  | secure_store (name : String) (data : ByteArray) (force : Bool)
  | secure_get (name : String)
  | secure_delete (name : String)

@[reducible] def UslOp.Ans : UslOp → Type
  | .lock_acquire => Unit
  | .secure_store _ _ _ => Unit
  | .secure_get _ => Option ByteArray
  | .secure_delete _ => Unit

abbrev UslProg := Coro UslOp UslOp.Ans UslState UslError

/-- `refuses`: without `force`, `store` raises when the name is in use. -/
def uslMachine (refuses : Bool) : Machine UslOp UslOp.Ans UslState UslError Empty where
  exec
    | .lock_acquire, s => if s.lock then none else some (.ok (), { s with lock := true })
    | .secure_store name data force, s =>
        if refuses && !force && (s.material.secure name).isSome then some (.error .keyError, s)
        else some (.ok (), { s with material := s.material.inSecure name (some data) })
    | .secure_get name, s => some (.ok (s.material.secure name), s)
    | .secure_delete name, s =>
        if (s.material.secure name).isSome then
          some (.ok (), { s with material := s.material.inSecure name none })
        else some (.error .keyError, s)
  env := nofun

/-! ## `open(path, 'r')` -/

/-- Every end of line is read as `\n`. -/
def universalNewlines : List Char → List Char
  | [] => []
  | '\r' :: '\n' :: cs => '\n' :: universalNewlines cs
  | '\r' :: cs => '\n' :: universalNewlines cs
  | c :: cs => c :: universalNewlines cs

/-- `f.read().encode()`. -/
def read_text (data : ByteArray) : Option ByteArray :=
  (String.fromUTF8? data).map fun text =>
    (String.ofList (universalNewlines text.toList)).toUTF8

/-! ## `CertificateManager` -/

namespace CertificateManager

def write_file (filename : String) (data : ByteArray) : UslProg Unit :=
  Coro.write fun s => { s with material := s.material.onDisk filename (some data) }

def _restore_to_disk (filename : String) : UslProg Bool := do
  let data ← Coro.call (UslOp.secure_get filename)
  match data with
  | none => return false
  | some data => do
      write_file filename data
      return true

def _has_file (filename : String) : UslProg Bool := do
  let res ← Coro.read fun s => (s.material.disk filename).isSome
  if res then return true else _restore_to_disk filename

def read_file (filename : String) : UslProg ByteArray := do
  let data ← Coro.read fun s => s.material.disk filename
  match data with
  | none => throw .fileNotFoundError
  | some data =>
      match read_text data with
      | none => throw .unicodeDecodeError
      | some text => return text

def _get_bytes (filename : String) : UslProg (Option ByteArray) := do
  let file_exists ← _has_file filename
  if file_exists then some <$> read_file filename else return none

def _get_public_key_bytes (files : UdsCertificates) (crypto : Cryptography) :
    UslProg (Option ByteArray) := do
  let private_key_bytes ← _get_bytes files.domain_key
  match private_key_bytes with
  | none => return none
  | some private_key_bytes => return crypto.load_pem_private_key private_key_bytes

def _store_bytes (filename : String) (data : ByteArray) (force : Bool) : UslProg Unit := do
  Coro.call (UslOp.secure_store filename data force)
  write_file filename data

/-- Don't fail if the file is not in the secure storage. -/
def notStored : UslError → UslProg Bool
  | .keyError => return false
  | e => throw e

/-- What the secure storage answers decides, not the disk. -/
def _delete_bytes (filename : String) : UslProg Bool := do
  let deleted ← (do
    Coro.call (UslOp.secure_delete filename)
    return true : UslProg Bool).handle notStored
  Coro.write fun s => { s with material := s.material.onDisk filename none }
  return deleted

end CertificateManager

/-! ## `USLDomainCertificateManager` -/

namespace USLDomainCertificateManager

open CertificateManager

variable (files : UdsCertificates) (crypto : Cryptography)

/-- `async with type(self).__lock`. -/
def locked {α : Type} (body : UslProg α) : UslProg α :=
  body.withLock .lock_acquire fun s => { s with lock := false }

def get_private_key_bytes : UslProg (Option ByteArray) := locked (_get_bytes files.domain_key)

def get_public_key_bytes : UslProg (Option ByteArray) :=
  locked (_get_public_key_bytes files crypto)

def get_certificate_bytes : UslProg (Option ByteArray) := locked (_get_bytes files.domain_crt)

/-- The next key. -/
def generate_private_key : UslProg ByteArray :=
  Coro.sync (fun s => { s with generated := s.generated + 1 }) fun s =>
    .ret (crypto.generate_private_key s.generated)

def create_private_key_file (overwrite : Bool) : UslProg Unit := locked do
  let file_exists ← _has_file files.domain_key
  if !overwrite && file_exists then return ()
  else do
    let encoded_key ← generate_private_key crypto
    _store_bytes files.domain_key encoded_key overwrite

/-- The part of `create_certificate_file` under the lock. -/
def storeMatching (data public_key_from_certificate : ByteArray) : UslProg Unit := do
  let public_key_from_private_key ← _get_public_key_bytes files crypto
  match public_key_from_private_key with
  | none => throw (.CertificateError "Could not obtain public key bytes")
  | some public_key_from_private_key => do
      Coro.raiseIf (public_key_from_private_key != public_key_from_certificate)
        (.CertificateError "Certificate does not match private key")
      _store_bytes files.domain_crt data false

def create_certificate_file (data : ByteArray) : UslProg Unit :=
  match crypto.load_pem_x509_certificate data with
  | none => throw (.CertificateError "Invalid certificate data")
  | some public_key_from_certificate =>
      locked (storeMatching files crypto data public_key_from_certificate)

def delete_key_material : UslProg Bool := locked do
  let _ ← _delete_bytes files.domain_crt
  _delete_bytes files.domain_key

end USLDomainCertificateManager

/-! ## `UslService` -/

namespace UslService

open USLDomainCertificateManager

variable (files : UdsCertificates) (crypto : Cryptography)

def permissionDenied (reason : String) : UslError :=
  .csm (csmPermissionDenied (some reason) PERMISSION_DENIED_ERROR none)

def internalError (reason : String) : UslError := .csm (csmInternalError reason)

/-- Create USL domain key pair in case it does not exist. -/
def post_system_certificates : UslProg ByteArray := do
  let existing ← get_private_key_bytes files
  match existing with
  | some _ => throw (permissionDenied "Domain certificate already exists")
  | none => do
      create_private_key_file files crypto false
      let private_key_bytes ← get_private_key_bytes files
      match private_key_bytes with
      | none => throw (internalError "Could not read USL private key")
      | some _ => do
          let public_key ← get_public_key_bytes files crypto
          match public_key with
          | none => throw (internalError "Could not read USL public key")
          | some public_key => return public_key

/-- `except CertificateError`. -/
def notUpdated : UslError → UslProg Unit
  | .CertificateError _ => throw (internalError "Could not update USL certificate")
  | e => throw e

def put_system_certificates (certificate : ByteArray) : UslProg Unit := do
  let existing ← get_certificate_bytes files
  match existing with
  | some _ => throw (permissionDenied "Domain certificate already exists")
  | none => (create_certificate_file files crypto certificate).handle notUpdated

/-- Delete all key material related with the USL domain certificate. -/
def delete_system_certificates : UslProg Unit := do
  let deleted ← delete_key_material files
  Coro.raiseIf (deleted = false) (permissionDenied "Failed to delete the domain certificate")

end UslService

inductive SystemCertificatesCall
  | post_system_certificates
  | put_system_certificates (certificate : ByteArray)
  | delete_system_certificates

/-- What a `post` returns; the others return nothing. -/
def SystemCertificatesCall.program (files : UdsCertificates) (crypto : Cryptography) :
    SystemCertificatesCall → UslProg (Option ByteArray)
  | .post_system_certificates => some <$> UslService.post_system_certificates files crypto
  | .put_system_certificates certificate =>
      (fun _ => none) <$> UslService.put_system_certificates files crypto certificate
  | .delete_system_certificates =>
      (fun _ => none) <$> UslService.delete_system_certificates files

/-! ## What the methods leave -/

/-- The lock of the class. -/
def domainLock (refuses : Bool) : Lock (uslMachine refuses) KeyMaterial where
  acquire := .lock_acquire
  release s := { s with lock := false }
  held := UslState.lock
  view := UslState.material
  exec_acquire s r s' he := by
    simp only [uslMachine] at he
    split at he
    · cases he
    · rename_i hfree
      cases he
      exact ⟨⟨eq_false_of_ne_true hfree, rfl⟩, rfl, (), rfl⟩
  release_free _ := ⟨rfl, rfl⟩
  env_apart := nofun

section Triples

variable {ι : Type} {refuses : Bool} {I : KeyMaterial → Prop} {i : ι}
variable {g : String → Option ByteArray} {filename : String}

/-- The holder of the lock, when `g` can be retrieved. -/
def Retrieves (refuses : Bool) (i : ι) (g : String → Option ByteArray) :
    World ι UslOp UslOp.Ans UslState UslError × Option ι → Prop :=
  (domainLock refuses).Holds i fun m => m.retrieve = g

namespace CertificateManager

theorem restore_to_disk_triple :
    ((domainLock refuses).guarding I ι).Triple (uslMachine refuses) i
      ((domainLock refuses).Holds i fun m => m.retrieve = g ∧ m.disk filename = none)
      (_restore_to_disk filename)
      (fun res => (domainLock refuses).Holds i fun m => m.retrieve = g ∧
        res = (g filename).isSome ∧ (res = true → m.disk filename = g filename))
      fun _ => Retrieves refuses i g := by
  refine Contract.Triple.bind
    (S := fun data => (domainLock refuses).Holds i fun m => m.retrieve = g ∧
      m.disk filename = none ∧ m.secure filename = data) ?_ fun data => ?_
  · refine Lock.call_triple ?_
    rintro s r s' ⟨hg, hdisk⟩ he
    cases he
    exact ⟨rfl, hg, hdisk, rfl⟩
  · cases data with
    | none =>
        refine .ret fun a _ h => ⟨h.1, h.2.1, ?_, nofun⟩
        rw [← h.2.1, KeyMaterial.retrieve_of_not_disk h.2.2.1, h.2.2.2]
        rfl
    | some data =>
        refine Contract.Triple.bind (S := fun _ => (domainLock refuses).Holds i fun m =>
          m.retrieve = g ∧ m.disk filename = some data) ?_ fun _ => ?_
        · refine Lock.sync_triple ?_
          rintro s ⟨hg, hdisk, hsecure⟩
          refine ⟨rfl, (KeyMaterial.retrieve_restore hdisk hsecure).trans hg, ?_⟩
          exact Function.update_self filename _ _
        · refine .ret fun a _ h => ?_
          have hdata : g filename = some data := h.2.1 ▸ KeyMaterial.retrieve_of_disk h.2.2
          refine ⟨h.1, h.2.1, ?_, fun _ => h.2.2.trans hdata.symm⟩
          rw [hdata]
          rfl

theorem has_file_triple :
    ((domainLock refuses).guarding I ι).Triple (uslMachine refuses) i (Retrieves refuses i g)
      (_has_file filename)
      (fun res => (domainLock refuses).Holds i fun m => m.retrieve = g ∧
        res = (g filename).isSome ∧ (res = true → m.disk filename = g filename))
      fun _ => Retrieves refuses i g := by
  refine Contract.Triple.bind
    (S := fun res => (domainLock refuses).Holds i fun m => m.retrieve = g ∧
      res = (m.disk filename).isSome)
    (Lock.sync_triple fun s hg => ⟨rfl, hg, rfl⟩) fun res => ?_
  cases res with
  | true =>
      refine .ret fun a _ h => ?_
      obtain ⟨data, hdisk⟩ := Option.isSome_iff_exists.mp h.2.2.symm
      have hdata : g filename = some data := h.2.1 ▸ KeyMaterial.retrieve_of_disk hdisk
      refine ⟨h.1, h.2.1, ?_, fun _ => hdisk.trans hdata.symm⟩
      rw [hdata]
      rfl
  | false =>
      refine restore_to_disk_triple.pre fun a _ h => ⟨h.1, h.2.1, ?_⟩
      exact Option.isNone_iff_eq_none.mp (Option.isSome_eq_false_iff.mp h.2.2.symm)

theorem get_bytes_triple :
    ((domainLock refuses).guarding I ι).Triple (uslMachine refuses) i (Retrieves refuses i g)
      (_get_bytes filename)
      (fun text => (domainLock refuses).Holds i fun m => m.retrieve = g ∧
        (g filename).map read_text = text.map some)
      fun _ => Retrieves refuses i g := by
  refine has_file_triple.bind fun file_exists => ?_
  cases file_exists with
  | false =>
      refine .ret fun a _ h => ⟨h.1, h.2.1, ?_⟩
      rw [Option.isNone_iff_eq_none.mp (Option.isSome_eq_false_iff.mp h.2.2.1.symm)]
      rfl
  | true =>
      refine .map (Contract.Triple.bind
        (S := fun data => (domainLock refuses).Holds i fun m => m.retrieve = g ∧
          data = g filename ∧ (g filename).isSome = true) ?_ fun data => ?_)
      · exact Lock.sync_triple fun s h => ⟨rfl, h.1, h.2.2 rfl, h.2.1.symm⟩
      · cases data with
        | none =>
            refine .of_fact (fun _ _ h => h.2.2) fun hfile => ?_
            rw [← hfile.1] at hfile
            cases hfile.2
        | some data =>
            dsimp only
            split
            · exact .raise fun a _ h => ⟨h.1, h.2.1⟩
            · rename_i text htext
              refine .ret fun a _ h => ⟨h.1, h.2.1, ?_⟩
              rw [← h.2.2.1]
              exact congrArg some htext

/-- The public key is that of the private key that can be retrieved. -/
def IsPublicKey (files : UdsCertificates) (crypto : Cryptography)
    (g : String → Option ByteArray) (public_key : ByteArray) : Prop :=
  ∃ private_key text, g files.domain_key = some private_key ∧ read_text private_key = some text ∧
    crypto.load_pem_private_key text = some public_key

theorem get_public_key_bytes_triple (files : UdsCertificates) (crypto : Cryptography) :
    ((domainLock refuses).guarding I ι).Triple (uslMachine refuses) i (Retrieves refuses i g)
      (_get_public_key_bytes files crypto)
      (fun public_key => (domainLock refuses).Holds i fun m => m.retrieve = g ∧
        ∀ pem ∈ public_key, IsPublicKey files crypto g pem)
      fun _ => Retrieves refuses i g := by
  refine get_bytes_triple.bind fun private_key_bytes => ?_
  cases private_key_bytes with
  | none => exact .ret fun a _ h => ⟨h.1, h.2.1, nofun⟩
  | some text =>
      refine .ret fun a _ h => ⟨h.1, h.2.1, fun pem hpem => ?_⟩
      obtain ⟨private_key, hkey, htext⟩ := Option.map_eq_some_iff.mp h.2.2
      exact ⟨private_key, text, hkey, htext, hpem⟩

theorem store_bytes_triple (data : ByteArray) (force : Bool) :
    ((domainLock refuses).guarding I ι).Triple (uslMachine refuses) i (Retrieves refuses i g)
      (_store_bytes filename data force)
      (fun _ => Retrieves refuses i (Function.update g filename (some data)))
      fun _ => Retrieves refuses i g := by
  refine Contract.Triple.bind
    (S := fun _ => (domainLock refuses).Holds i (KeyMaterial.Apart g filename)) ?_ fun _ => ?_
  · refine Lock.call_triple ?_
    rintro s r s' hg he
    simp only [uslMachine] at he
    split at he
    · cases he
      exact ⟨rfl, hg⟩
    · cases he
      exact ⟨rfl, hg ▸ KeyMaterial.Apart.inSecure⟩
  · exact Lock.sync_triple fun s h => ⟨rfl, h.onDisk KeyMaterial.retrieve_write⟩

theorem delete_bytes_triple {E : UslError → World ι UslOp UslOp.Ans UslState UslError × Option ι → Prop} :
    ((domainLock refuses).guarding I ι).Triple (uslMachine refuses) i (Retrieves refuses i g)
      (_delete_bytes filename)
      (fun _ => Retrieves refuses i (Function.update g filename none)) E := by
  have hdeleted : ∀ m : KeyMaterial, (KeyMaterial.Apart g filename m ∧ m.secure filename = none) →
      (m.onDisk filename none).retrieve = Function.update g filename none :=
    fun m h => h.1.onDisk (KeyMaterial.retrieve_unlink h.2)
  have htry : ((domainLock refuses).guarding I ι).Triple (uslMachine refuses) i
      (Retrieves refuses i g) (do
        Coro.call (UslOp.secure_delete filename)
        return true : UslProg Bool)
      (fun _ => (domainLock refuses).Holds i fun m =>
        KeyMaterial.Apart g filename m ∧ m.secure filename = none)
      fun e => (domainLock refuses).Holds i fun m =>
        e = .keyError ∧ KeyMaterial.Apart g filename m ∧ m.secure filename = none := by
    refine Contract.Triple.bind (S := fun _ => (domainLock refuses).Holds i fun m =>
      KeyMaterial.Apart g filename m ∧ m.secure filename = none) (Lock.call_triple ?_)
      fun _ => .ret fun _ _ h => h
    rintro s r s' hg he
    simp only [uslMachine] at he
    split at he
    · cases he
      exact ⟨rfl, hg ▸ KeyMaterial.Apart.inSecure, Function.update_self filename _ _⟩
    · rename_i hnone
      cases he
      exact ⟨rfl, rfl, fun other _ => congrFun hg other, Option.not_isSome_iff_eq_none.mp hnone⟩
  refine (htry.handle fun e => ?_).bind fun deleted => ?_
  · refine .of_fact (fun _ _ h => h.2.1) fun he => ?_
    rw [he]
    exact .ret fun _ _ h => ⟨h.1, h.2.2⟩
  · refine Contract.Triple.bind (S := fun _ => Retrieves refuses i (Function.update g filename none))
      (Lock.sync_triple fun s h => ⟨rfl, hdeleted s.material h⟩) fun _ => ?_
    exact .ret fun _ _ h => h

end CertificateManager

/-! ## The pair -/

/-- A certificate that can be retrieved has the public key of the private key, which can be
retrieved too. -/
def Matched (files : UdsCertificates) (crypto : Cryptography) (g : String → Option ByteArray) :
    Prop :=
  ∀ certificate ∈ g files.domain_crt, ∃ public_key,
    CertificateManager.IsPublicKey files crypto g public_key ∧
      crypto.load_pem_x509_certificate certificate = some public_key

variable {files : UdsCertificates} {crypto : Cryptography}

/-- Where there is no key, there is no certificate, so a new key breaks nothing. -/
theorem Matched.new_key {private_key : ByteArray} (h : Matched files crypto g)
    (hnone : g files.domain_key = none) :
    Matched files crypto (Function.update g files.domain_key (some private_key)) := by
  intro certificate hcertificate
  rw [Function.update_of_ne files.distinct.symm] at hcertificate
  obtain ⟨_, ⟨_, _, hkey, -⟩, -⟩ := h certificate hcertificate
  cases hnone.symm.trans hkey

theorem Matched.new_certificate {certificate public_key : ByteArray}
    (hkey : CertificateManager.IsPublicKey files crypto g public_key)
    (hload : crypto.load_pem_x509_certificate certificate = some public_key) :
    Matched files crypto (Function.update g files.domain_crt (some certificate)) := by
  intro certificate' hcertificate
  rw [Function.update_self] at hcertificate
  cases hcertificate
  refine ⟨public_key, ?_, hload⟩
  obtain ⟨private_key, text, hprivate, hrest⟩ := hkey
  exact ⟨private_key, text, (Function.update_of_ne files.distinct _ _).trans hprivate, hrest⟩

/-- The certificate goes with the key. -/
theorem Matched.deleted :
    Matched files crypto
      (Function.update (Function.update g files.domain_crt none) files.domain_key none) := by
  intro certificate hcertificate
  rw [Function.update_of_ne files.distinct.symm, Function.update_self] at hcertificate
  cases hcertificate

/-- The contract of the calls. -/
abbrev pairKept (files : UdsCertificates) (crypto : Cryptography) (refuses : Bool) (ι : Type) :
    Contract ι UslOp UslOp.Ans UslState UslError (Option ι) :=
  (domainLock refuses).guarding (fun m => Matched files crypto m.retrieve) ι

/-- What `i` knows when it is about to give the lock back. -/
def Mended (files : UdsCertificates) (crypto : Cryptography) (refuses : Bool) (i : ι) :
    World ι UslOp UslOp.Ans UslState UslError × Option ι → Prop :=
  (domainLock refuses).Holds i fun m => Matched files crypto m.retrieve

theorem Retrieves.mended {a : World ι UslOp UslOp.Ans UslState UslError × Option ι}
    (h : Retrieves refuses i g a) (hg : Matched files crypto g) :
    Mended files crypto refuses i a := by
  refine ⟨h.1, ?_⟩
  show Matched files crypto a.1.state.material.retrieve
  rw [show a.1.state.material.retrieve = g from h.2]
  exact hg

/-! ## The methods of the manager, and of the service -/

namespace USLDomainCertificateManager

open CertificateManager

theorem locked_triple {α : Type} {body : UslProg α}
    (h : ∀ g, Matched files crypto g →
      (pairKept files crypto refuses ι).Triple (uslMachine refuses) i (Retrieves refuses i g) body
        (fun _ => Mended files crypto refuses i) fun _ => Mended files crypto refuses i) :
    (pairKept files crypto refuses ι).Triple (uslMachine refuses) i (Lock.Outside i) (locked body)
      (fun _ => Lock.Outside i) fun _ => Lock.Outside i := by
  refine Lock.withLock_triple (L := domainLock refuses) ?_
  refine Contract.Triple.pre (P := fun a => ∃ g, Matched files crypto g ∧ Retrieves refuses i g a) ?_
    fun a _ h => ⟨a.1.state.material.retrieve, h.2, h.1, rfl⟩
  refine .of_exists fun g => .of_fact (fun _ _ h => h.1) fun hg => ?_
  exact (h g hg).pre fun _ _ h => h.2

theorem get_bytes_locked_triple {filename : String} :
    (pairKept files crypto refuses ι).Triple (uslMachine refuses) i (Lock.Outside i)
      (locked (_get_bytes filename)) (fun _ => Lock.Outside i) fun _ => Lock.Outside i :=
  locked_triple fun _ hg => get_bytes_triple.weaken
    (fun _ _ _ h => Retrieves.mended ⟨h.1, h.2.1⟩ hg) fun _ _ _ h => Retrieves.mended h hg

theorem get_public_key_triple :
    (pairKept files crypto refuses ι).Triple (uslMachine refuses) i (Lock.Outside i)
      (get_public_key_bytes files crypto) (fun _ => Lock.Outside i) fun _ => Lock.Outside i :=
  locked_triple fun _ hg => (get_public_key_bytes_triple files crypto).weaken
    (fun _ _ _ h => Retrieves.mended ⟨h.1, h.2.1⟩ hg) fun _ _ _ h => Retrieves.mended h hg

/-- Without `overwrite`, a key is only generated where there is none. -/
theorem create_private_key_file_triple :
    (pairKept files crypto refuses ι).Triple (uslMachine refuses) i (Lock.Outside i)
      (create_private_key_file files crypto false) (fun _ => Lock.Outside i)
      fun _ => Lock.Outside i := by
  refine locked_triple fun g hg => ?_
  refine (has_file_triple.weaken (fun _ _ _ h => h) fun _ _ _ h => h.mended hg).bind
    fun file_exists => ?_
  cases file_exists with
  | true => exact .ret fun _ _ h => Retrieves.mended ⟨h.1, h.2.1⟩ hg
  | false =>
      refine .of_fact (fun _ _ h => h.2.2.1) fun hnone => ?_
      refine Contract.Triple.bind (S := fun _ => Retrieves refuses i g)
        (Lock.sync_triple fun _ h => ⟨rfl, h.1⟩) fun encoded_key => ?_
      refine (store_bytes_triple encoded_key false).weaken (fun _ _ _ h => h.mended ?_)
        fun _ _ _ h => h.mended hg
      exact hg.new_key (Option.isNone_iff_eq_none.mp (Option.isSome_eq_false_iff.mp hnone.symm))

theorem eq_of_not_bne {data data' : ByteArray} (h : ¬ (data != data') = true) : data = data' := by
  cases hbeq : data == data' with
  | true => exact ByteArray.ext (eq_of_beq hbeq)
  | false => exact absurd (congrArg not hbeq) h

theorem storeMatching_triple {data public_key : ByteArray}
    (hload : crypto.load_pem_x509_certificate data = some public_key) (hg : Matched files crypto g) :
    (pairKept files crypto refuses ι).Triple (uslMachine refuses) i (Retrieves refuses i g)
      (storeMatching files crypto data public_key) (fun _ => Mended files crypto refuses i)
      fun _ => Mended files crypto refuses i := by
  refine ((get_public_key_bytes_triple files crypto).weaken (fun _ _ _ h => h)
    fun _ _ _ h => h.mended hg).bind fun public_key_from_private_key => ?_
  cases public_key_from_private_key with
  | none => exact .raise fun _ _ h => Retrieves.mended ⟨h.1, h.2.1⟩ hg
  | some pem =>
      refine .guard (fun _ _ _ h => Retrieves.mended ⟨h.1, h.2.1⟩ hg) fun hsame => ?_
      refine .of_fact (fun _ _ h => h.2.2 pem rfl) fun hkey => ?_
      refine ((store_bytes_triple data false).pre fun _ _ h => ⟨h.1, h.2.1⟩).weaken
        (fun _ _ _ h => h.mended ?_) fun _ _ _ h => h.mended hg
      rw [eq_of_not_bne hsame] at hkey
      exact Matched.new_certificate hkey hload

theorem create_certificate_file_triple (data : ByteArray) :
    (pairKept files crypto refuses ι).Triple (uslMachine refuses) i (Lock.Outside i)
      (create_certificate_file files crypto data) (fun _ => Lock.Outside i)
      fun _ => Lock.Outside i := by
  unfold create_certificate_file
  split
  · exact .raise fun _ _ h => h
  · rename_i public_key hload
    exact locked_triple fun g hg => storeMatching_triple hload hg

theorem delete_key_material_triple :
    (pairKept files crypto refuses ι).Triple (uslMachine refuses) i (Lock.Outside i)
      (delete_key_material files) (fun _ => Lock.Outside i) fun _ => Lock.Outside i := by
  refine locked_triple fun g _ => ?_
  refine delete_bytes_triple.bind fun _ => ?_
  exact delete_bytes_triple.weaken (fun _ _ _ h => h.mended Matched.deleted) fun _ _ _ h => h

end USLDomainCertificateManager

namespace UslService

open USLDomainCertificateManager

theorem post_system_certificates_triple :
    (pairKept files crypto refuses ι).Triple (uslMachine refuses) i (Lock.Outside i)
      (post_system_certificates files crypto) (fun _ => Lock.Outside i)
      fun _ => Lock.Outside i := by
  refine get_bytes_locked_triple.bind fun existing => ?_
  cases existing with
  | some key => exact .raise fun _ _ h => h
  | none =>
      refine create_private_key_file_triple.bind fun _ => ?_
      refine get_bytes_locked_triple.bind fun private_key_bytes => ?_
      cases private_key_bytes with
      | none => exact .raise fun _ _ h => h
      | some key =>
          refine get_public_key_triple.bind fun public_key => ?_
          cases public_key with
          | none => exact .raise fun _ _ h => h
          | some pem => exact .ret fun _ _ h => h

theorem put_system_certificates_triple (certificate : ByteArray) :
    (pairKept files crypto refuses ι).Triple (uslMachine refuses) i (Lock.Outside i)
      (put_system_certificates files crypto certificate) (fun _ => Lock.Outside i)
      fun _ => Lock.Outside i := by
  refine get_bytes_locked_triple.bind fun existing => ?_
  cases existing with
  | some data => exact .raise fun _ _ h => h
  | none =>
      refine (create_certificate_file_triple certificate).handle fun e => ?_
      unfold notUpdated
      split
      · exact .raise fun _ _ h => h
      · exact .raise fun _ _ h => h

theorem delete_system_certificates_triple :
    (pairKept files crypto refuses ι).Triple (uslMachine refuses) i (Lock.Outside i)
      (delete_system_certificates files) (fun _ => Lock.Outside i) fun _ => Lock.Outside i :=
  delete_key_material_triple.bind fun _ => .raiseIf (fun _ _ _ h => h) fun _ _ _ h => h

end UslService

/-- **The pair.**  Whenever nobody holds the lock, a certificate that can be retrieved matches
the private key. -/
theorem certificate_matches_key [DecidableEq ι] (files : UdsCertificates) (crypto : Cryptography)
    (refuses : Bool) (calls : ι → SystemCertificatesCall) (s : UslState) (hfree : s.lock = false)
    (hs : Matched files crypto s.material.retrieve) (as : List (Act ι Empty))
    (hfree' : (Config.run (uslMachine refuses) (fun i => (calls i).program files crypto) (.start s)
      as).state.lock = false) :
    Matched files crypto (Config.run (uslMachine refuses) (fun i => (calls i).program files crypto)
      (.start s) as).state.material.retrieve := by
  refine Lock.guarding_run (L := domainLock refuses) (I := fun m => Matched files crypto m.retrieve)
    (fun i => ?_) hfree hs as hfree'
  cases calls i with
  | post_system_certificates => exact .map UslService.post_system_certificates_triple
  | put_system_certificates certificate =>
      exact .map (UslService.put_system_certificates_triple certificate)
  | delete_system_certificates => exact .map UslService.delete_system_certificates_triple

end Triples

/-! ## A key and its certificate -/

/-- What is configured. -/
def configured : UdsCertificates := ⟨"domain.key", "domain.crt", by decide⟩

def firstKey : ByteArray := "private 0".toUTF8

def firstCertificate : ByteArray := "certificate 0".toUTF8

/-- The cryptography of the first key. -/
def firstKeyOnly : Cryptography where
  generate_private_key _ := firstKey
  load_pem_private_key data := if data == firstKey then some "public 0".toUTF8 else none
  load_pem_x509_certificate data := if data == firstCertificate then some "public 0".toUTF8 else none

def noMaterial : UslState := ⟨⟨fun _ => none, fun _ => none⟩, false, 0⟩

/-- The certificate is put while the key is being made, and waits for the lock. -/
def postAndPut : Config Bool UslOp UslOp.Ans UslState UslError (Option ByteArray) :=
  Config.run (uslMachine true)
    (fun i => (if i then SystemCertificatesCall.put_system_certificates firstCertificate
      else .post_system_certificates).program configured firstKeyOnly) (.start noMaterial)
    (List.replicate 12 (.run false) ++ List.replicate 5 (.run true) ++
      List.replicate 20 (.run false) ++ List.replicate 20 (.run true))

theorem certificate_matches_key_put :
    Matched configured firstKeyOnly postAndPut.state.material.retrieve ∧
      postAndPut.state.material.retrieve "domain.crt" = some firstCertificate :=
  ⟨certificate_matches_key configured firstKeyOnly true _ noMaterial rfl (fun _ h => nomatch h) _
    (by decide +kernel), by decide +kernel⟩

end CortxCsm
