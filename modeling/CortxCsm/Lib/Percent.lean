/-
# `CortxCsm.Lib.Percent` — percent-encoded texts

A character may be written as its UTF-8 bytes, each as `%` and two hexadecimal digits.
`unquote` reads such a text: a run of ASCII characters is read as bytes, where a `%` that no
two digits follow stands for itself, and the bytes are decoded, with U+FFFD for what is no
UTF-8; all other characters stay.

    Quoted written text     `written` is `text` with any of its characters encoded, and no `%` left
    unquote_quoted          reading gives the text back
-/
import Mathlib.Data.List.Basic

namespace Percent

/-! ## UTF-8 -/

def utf8 (c : Char) : List Nat :=
  let n := c.toNat
  if n < 0x80 then [n]
  else if n < 0x800 then [0xC0 + n / 64, 0x80 + n % 64]
  else if n < 0x10000 then [0xE0 + n / 4096, 0x80 + n / 64 % 64, 0x80 + n % 64]
  else [0xF0 + n / 262144, 0x80 + n / 4096 % 64, 0x80 + n / 64 % 64, 0x80 + n % 64]

/-- A character that is not complete: its value so far, how many bytes are missing, and the
range of the next one. -/
structure Pending where
  value : Nat
  missing : Nat
  low : Nat
  high : Nat

def replacement : Char := Char.ofNat 0xFFFD

/-- The first byte of a character. -/
def lead (b : Nat) : List Char × Option Pending :=
  if b < 0x80 then ([Char.ofNat b], none)
  else if b < 0xC2 then ([replacement], none)
  else if b < 0xE0 then ([], some ⟨b - 0xC0, 1, 0x80, 0xBF⟩)
  else if b < 0xF0 then
    ([], some ⟨b - 0xE0, 2, if b = 0xE0 then 0xA0 else 0x80, if b = 0xED then 0x9F else 0xBF⟩)
  else if b < 0xF5 then
    ([], some ⟨b - 0xF0, 3, if b = 0xF0 then 0x90 else 0x80, if b = 0xF4 then 0x8F else 0xBF⟩)
  else ([replacement], none)

/-- A byte that does not go on with a character begins the next one. -/
def next : Option Pending → Nat → List Char × Option Pending
  | none, b => lead b
  | some p, b =>
      if p.low ≤ b ∧ b ≤ p.high then
        let value := p.value * 64 + (b - 0x80)
        if p.missing = 1 then ([Char.ofNat value], none)
        else ([], some ⟨value, p.missing - 1, 0x80, 0xBF⟩)
      else (replacement :: (lead b).1, (lead b).2)

/-- `bytes.decode("utf-8", errors = "replace")`. -/
def decode : Option Pending → List Nat → List Char
  | none, [] => []
  | some _, [] => [replacement]
  | pending, b :: bytes => (next pending b).1 ++ decode (next pending b).2 bytes

theorem decode_cons (pending : Option Pending) (b : Nat) (bytes : List Nat) :
    decode pending (b :: bytes) = (next pending b).1 ++ decode (next pending b).2 bytes := by
  cases pending with
  | none => rfl
  | some _ => rfl

/-- One more byte of a character, but not the last. -/
theorem decode_more {p : Pending} {b : Nat} (bytes : List Nat) (hlow : p.low ≤ b)
    (hhigh : b ≤ p.high) (hmissing : p.missing ≠ 1) :
    decode (some p) (b :: bytes) =
      decode (some ⟨p.value * 64 + (b - 0x80), p.missing - 1, 0x80, 0xBF⟩) bytes := by
  rw [decode_cons, next, if_pos ⟨hlow, hhigh⟩]
  dsimp only
  rw [if_neg hmissing, List.nil_append]

theorem decode_last {p : Pending} {b : Nat} (bytes : List Nat) (hlow : p.low ≤ b)
    (hhigh : b ≤ p.high) (hmissing : p.missing = 1) :
    decode (some p) (b :: bytes) =
      Char.ofNat (p.value * 64 + (b - 0x80)) :: decode none bytes := by
  rw [decode_cons, next, if_pos ⟨hlow, hhigh⟩]
  dsimp only
  rw [if_pos hmissing, List.singleton_append]

theorem toNat_valid (c : Char) :
    c.toNat < 0xD800 ∨ (0xDFFF < c.toNat ∧ c.toNat < 0x110000) := c.valid

theorem decode_lead {b : Nat} {p : Pending} (bytes : List Nat) (h : lead b = ([], some p)) :
    decode none (b :: bytes) = decode (some p) bytes := by
  rw [decode_cons, next, h, List.nil_append]

theorem lead_two {k : Nat} (hlow : 2 ≤ k) (hhigh : k < 32) :
    lead (0xC0 + k) = ([], some ⟨k, 1, 0x80, 0xBF⟩) := by
  rw [lead, if_neg (by omega), if_neg (by omega), if_pos (by omega), Nat.add_sub_cancel_left]

theorem lead_three {k : Nat} (h : k < 16) :
    lead (0xE0 + k) =
      ([], some ⟨k, 2, if k = 0 then 0xA0 else 0x80, if k = 13 then 0x9F else 0xBF⟩) := by
  have hfirst : 0xE0 + k = 0xE0 ↔ k = 0 := by omega
  have hsurrogate : 0xE0 + k = 0xED ↔ k = 13 := by omega
  rw [lead, if_neg (by omega), if_neg (by omega), if_neg (by omega), if_pos (by omega),
    Nat.add_sub_cancel_left]
  simp only [hfirst, hsurrogate]

theorem lead_four {k : Nat} (h : k < 5) :
    lead (0xF0 + k) =
      ([], some ⟨k, 3, if k = 0 then 0x90 else 0x80, if k = 4 then 0x8F else 0xBF⟩) := by
  have hfirst : 0xF0 + k = 0xF0 ↔ k = 0 := by omega
  have hlast : 0xF0 + k = 0xF4 ↔ k = 4 := by omega
  rw [lead, if_neg (by omega), if_neg (by omega), if_neg (by omega), if_neg (by omega),
    if_pos (by omega), Nat.add_sub_cancel_left]
  simp only [hfirst, hlast]

/-- The bytes of a character are decoded to it. -/
theorem decode_utf8 (c : Char) (bytes : List Nat) :
    decode none (utf8 c ++ bytes) = c :: decode none bytes := by
  have hvalid := toNat_valid c
  have hvalue : ∀ {n : Nat}, n = c.toNat → Char.ofNat n = c := by
    rintro n rfl
    exact Char.ofNat_toNat c
  unfold utf8
  dsimp only
  split
  · rename_i hone
    rw [List.singleton_append, decode_cons, next, lead, if_pos hone, hvalue rfl]
    rfl
  · split
    · rename_i htwo
      rw [List.cons_append, decode_lead _ (lead_two (by omega) (by omega)), List.singleton_append,
        decode_last _ (by simp) (by dsimp only; omega) rfl]
      rw [hvalue (by dsimp only; omega)]
    · split
      · rename_i hthree
        rw [List.cons_append, decode_lead _ (lead_three (by omega)), List.cons_append,
          decode_more _ (by dsimp only; split <;> omega) (by dsimp only; split <;> omega) (by simp),
          List.singleton_append, decode_last _ (by simp) (by dsimp only; omega) rfl]
        rw [hvalue (by dsimp only; omega)]
      · rename_i hthree
        rw [List.cons_append, decode_lead _ (lead_four (by omega)), List.cons_append,
          decode_more _ (by dsimp only; split <;> omega) (by dsimp only; split <;> omega) (by simp),
          List.cons_append, decode_more _ (by simp) (by dsimp only; omega) (by simp),
          List.singleton_append, decode_last _ (by simp) (by dsimp only; omega) rfl]
        rw [hvalue (by dsimp only; omega)]

/-! ## Percent-encoding -/

def hexValue (c : Char) : Option Nat :=
  if '0' ≤ c ∧ c ≤ '9' then some (c.toNat - '0'.toNat)
  else if 'A' ≤ c ∧ c ≤ 'F' then some (c.toNat - 'A'.toNat + 10)
  else if 'a' ≤ c ∧ c ≤ 'f' then some (c.toNat - 'a'.toNat + 10)
  else none

/-- The byte that two digits stand for. -/
def hexByte (high low : Char) : Option Nat := do
  let a ← hexValue high
  let b ← hexValue low
  return 16 * a + b

/-- The bytes of a run of ASCII characters. -/
def unquoteBytes : List Char → List Nat
  | [] => []
  | '%' :: high :: low :: rest =>
      match hexByte high low with
      | some b => b :: unquoteBytes rest
      | none => '%'.toNat :: unquoteBytes (high :: low :: rest)
  | c :: rest => c.toNat :: unquoteBytes rest

/-- The rest of a text, after the run of ASCII characters `run`. -/
def unquoteRun (run : List Char) : List Char → List Char
  | [] => decode none (unquoteBytes run)
  | c :: rest =>
      if c.toNat < 0x80 then unquoteRun (run ++ [c]) rest
      else decode none (unquoteBytes run) ++ c :: unquoteRun [] rest

/-- `urllib.parse.unquote`. -/
def unquote (s : String) : String := String.ofList (unquoteRun [] s.toList)

/-! ## Encoded texts -/

/-- Bytes, each as `%` and two digits. -/
inductive Escapes : List Char → List Nat → Prop
  | nil : Escapes [] []
  | cons {high low : Char} {b : Nat} {esc : List Char} {bytes : List Nat} :
      hexByte high low = some b → Escapes esc bytes →
      Escapes ('%' :: high :: low :: esc) (b :: bytes)

/-- Any of the characters are encoded, and each `%`. -/
inductive Quoted : List Char → List Char → Prop
  | nil : Quoted [] []
  | plain {c : Char} {written text : List Char} : c ≠ '%' → Quoted written text →
      Quoted (c :: written) (c :: text)
  | escaped {c : Char} {esc written text : List Char} : Escapes esc (utf8 c) →
      Quoted written text → Quoted (esc ++ written) (c :: text)

theorem quoted_self : ∀ {text : List Char}, '%' ∉ text → Quoted text text
  | [], _ => .nil
  | _ :: _, h =>
      .plain (Ne.symm (List.ne_of_not_mem_cons h)) (quoted_self (List.not_mem_of_not_mem_cons h))

theorem Quoted.append {written written' text text' : List Char} (h : Quoted written text)
    (h' : Quoted written' text') : Quoted (written ++ written') (text ++ text') := by
  induction h with
  | nil => exact h'
  | plain hc _ ih => exact .plain hc ih
  | escaped hesc _ ih =>
      rw [List.append_assoc]
      exact .escaped hesc ih

theorem hexValue_ascii {c : Char} {n : Nat} (h : hexValue c = some n) : c.toNat < 0x80 := by
  have hle : ∀ {d : Char}, c ≤ d → c.toNat ≤ d.toNat := fun hcd => hcd
  unfold hexValue at h
  split at h
  · rename_i hrange
    exact Nat.lt_of_le_of_lt (hle hrange.2) (by decide)
  · split at h
    · rename_i hrange
      exact Nat.lt_of_le_of_lt (hle hrange.2) (by decide)
    · split at h
      · rename_i hrange
        exact Nat.lt_of_le_of_lt (hle hrange.2) (by decide)
      · cases h

theorem Escapes.ascii {esc : List Char} {bytes : List Nat} (h : Escapes esc bytes) :
    ∀ c ∈ esc, c.toNat < 0x80 := by
  induction h with
  | nil => exact fun c hc => absurd hc List.not_mem_nil
  | cons hbyte _ ih =>
      obtain ⟨a, ha, hrest⟩ := Option.bind_eq_some_iff.mp hbyte
      obtain ⟨b, hb, -⟩ := Option.bind_eq_some_iff.mp hrest
      intro c hc
      rcases List.mem_cons.mp hc with rfl | hc
      · decide
      · rcases List.mem_cons.mp hc with rfl | hc
        · exact hexValue_ascii ha
        · rcases List.mem_cons.mp hc with rfl | hc
          · exact hexValue_ascii hb
          · exact ih c hc

theorem unquoteBytes_escapes {esc : List Char} {bytes : List Nat} (h : Escapes esc bytes)
    (rest : List Char) : unquoteBytes (esc ++ rest) = bytes ++ unquoteBytes rest := by
  induction h with
  | nil => rfl
  | cons hbyte _ ih =>
      rw [List.cons_append, List.cons_append, List.cons_append, unquoteBytes]
      simp only [hbyte, ih, List.cons_append]

theorem unquoteBytes_plain {c : Char} (h : c ≠ '%') (rest : List Char) :
    unquoteBytes (c :: rest) = c.toNat :: unquoteBytes rest := by
  rw [unquoteBytes]
  rintro high low rest' rfl
  exact absurd rfl h

/-! ## Reading -/

/-- A run is decoded to the text that it encodes, whatever comes after it. -/
theorem decode_run {run text : List Char} (h : Quoted run text) (hascii : ∀ c ∈ run, c.toNat < 0x80)
    (rest : List Char) :
    decode none (unquoteBytes (run ++ rest)) = text ++ decode none (unquoteBytes rest) := by
  induction h with
  | nil => rfl
  | @plain c written text hc _ ih =>
      have hone : utf8 c = [c.toNat] := if_pos (hascii c List.mem_cons_self)
      have hc' := decode_utf8 c (unquoteBytes (written ++ rest))
      rw [hone, List.singleton_append] at hc'
      rw [List.cons_append, unquoteBytes_plain hc, hc',
        ih fun c hc => hascii c (List.mem_cons_of_mem _ hc), List.cons_append]
  | escaped hesc _ ih =>
      rw [List.append_assoc, unquoteBytes_escapes hesc, decode_utf8,
        ih fun c hc => hascii c (List.mem_append_right _ hc), List.cons_append]

theorem unquoteRun_ascii : ∀ {ascii : List Char} (run rest : List Char),
    (∀ c ∈ ascii, c.toNat < 0x80) → unquoteRun run (ascii ++ rest) = unquoteRun (run ++ ascii) rest
  | [], run, rest, _ => by rw [List.nil_append, List.append_nil]
  | c :: ascii, run, rest, h => by
      rw [List.cons_append, unquoteRun, if_pos (h c List.mem_cons_self),
        unquoteRun_ascii _ _ fun c hc => h c (List.mem_cons_of_mem _ hc), List.append_assoc,
        List.singleton_append]

theorem unquoteRun_quoted {written text : List Char} (h : Quoted written text) :
    ∀ {run before : List Char}, Quoted run before → (∀ c ∈ run, c.toNat < 0x80) →
      unquoteRun run written = before ++ text := by
  induction h with
  | nil =>
      intro run before hrun hascii
      have hdecode := decode_run hrun hascii []
      rw [List.append_nil] at hdecode
      exact hdecode
  | @plain c written text hc _ ih =>
      intro run before hrun hascii
      rw [unquoteRun]
      split
      · rename_i hone
        have hascii' : ∀ d ∈ run ++ [c], d.toNat < 0x80 := by
          intro d hd
          rcases List.mem_append.mp hd with hd | hd
          · exact hascii d hd
          · rwa [List.mem_singleton.mp hd]
        rw [ih (hrun.append (.plain hc .nil)) hascii', List.append_assoc, List.singleton_append]
      · have hdecode := decode_run hrun hascii []
        have hrest := ih .nil fun d hd => absurd hd List.not_mem_nil
        rw [List.append_nil] at hdecode
        rw [hdecode, hrest]
        simp [unquoteBytes, decode]
  | @escaped c esc written text hesc _ ih =>
      intro run before hrun hascii
      have hascii' : ∀ d ∈ run ++ esc, d.toNat < 0x80 := by
        intro d hd
        rcases List.mem_append.mp hd with hd | hd
        · exact hascii d hd
        · exact hesc.ascii d hd
      have hesc' : Quoted esc [c] := by
        have hone := Quoted.escaped hesc .nil
        rwa [List.append_nil] at hone
      rw [unquoteRun_ascii run written hesc.ascii, ih (hrun.append hesc') hascii',
        List.append_assoc, List.singleton_append]

/-- An encoded text is read back. -/
theorem unquote_quoted {written text : String} (h : Quoted written.toList text.toList) :
    unquote written = text := by
  rw [unquote, unquoteRun_quoted h .nil fun c hc => absurd hc List.not_mem_nil, List.nil_append,
    String.ofList_toList]

end Percent
