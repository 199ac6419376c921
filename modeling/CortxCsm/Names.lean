/-
# `CortxCsm.Names` — the validators of names in `csm/core/controllers/validators.py`

A user name, an access key and a bucket name are each searched for with a pattern between
`^` and `$`.  `$` matches before a newline at the end of the text as well, so that each
validator accepts the names it documents, and every one of them followed by one newline
(`names_exact_iff`).  A bucket name must not be an address; the search for that ends with
`$` too, so that an address followed by a newline is refused like the address.
-/
import CortxCsm.Lib.Pattern

namespace CortxCsm

open Pattern (anchored search inSet)

/-! ## The validators -/

/-- A validator returns, or raises `ValidationError` with a text. -/
abbrev Validated := Except String Unit

/-- `if not re.search(pattern, value): raise ValidationError(message)`. -/
def searchValidator (pattern : Pattern) (message : String) (value : String) : Validated :=
  if search pattern value then .ok () else .error message

def az : Char × Char := ('a', 'z')
def AZ : Char × Char := ('A', 'Z')
def digits : Char × Char := ('0', '9')

/-- `[a-zA-Z0-9_-]{4,56}`. -/
def userNamePattern : Pattern := .rep (.set [az, AZ, digits, ('_', '_'), ('-', '-')]) 4 56

def UserNameValidator : String → Validated :=
  searchValidator (anchored userNamePattern)
    "Username can only contain Alphanumeric, - and  _ .Length Must be between 4-56 Characters"

/-- `[a-zA-Z0-9_]{16,128}`. -/
def accessKeyPattern : Pattern := .rep (.set [az, AZ, digits, ('_', '_')]) 16 128

def AccessKeyValidator : String → Validated :=
  searchValidator (anchored accessKeyPattern)
    "Access key can only contain Alphanumeric and _ .Length Must be between 16-128 Characters"

/-- `25[0-5]|2[0-4][0-9]|[0-1]?[0-9][0-9]?`. -/
def partPattern : Pattern :=
  .alt (.seq (.lit '2') (.seq (.lit '5') (.set [('0', '5')])))
    (.alt (.seq (.lit '2') (.seq (.set [('0', '4')]) (.set [digits])))
      (.seq (.opt (.set [('0', '1')])) (.seq (.set [digits]) (.opt (.set [digits])))))

/-- Four parts with dots between them. -/
def ipv4Pattern : Pattern :=
  .seq partPattern (.seq (.lit '.') (.seq partPattern (.seq (.lit '.')
    (.seq partPattern (.seq (.lit '.') partPattern)))))

def Ipv4 : String → Validated := searchValidator (anchored ipv4Pattern) "Invalid IP4 address."

namespace BucketNameValidator

/-- `[a-z0-9][a-z0-9-.]{2,54}[a-z0-9]`. -/
def bucketNamePattern : Pattern :=
  .seq (.set [az, digits]) (.seq (.rep (.set [az, digits, ('-', '-'), ('.', '.')]) 2 54)
    (.set [az, digits]))

def is_value_valid (value : String) : Bool := search (anchored bucketNamePattern) value

def _check_ipv4 (value : String) : Validated :=
  match Ipv4 value with
  | .ok () => .error "Bucket Name cannot be ip v4 format"
  | .error _ => .ok ()

end BucketNameValidator

def BucketNameValidator (value : String) : Validated :=
  if !BucketNameValidator.is_value_valid value then
    .error ("Bucket Name should be between 4-56 Characters long." ++
      "Should contain either lowercase, numeric, '-' or '.' characters. " ++
      "Not starting or ending with '-' or '.'")
  else if "xn--".toList.isPrefixOf value.toList then
    .error "Bucket Name cannot start with 'xn--'"
  else BucketNameValidator._check_ipv4 value

/-! ## The names they document -/

def UserName (s : List Char) : Prop :=
  4 ≤ s.length ∧ s.length ≤ 56 ∧ ∀ c ∈ s, c.isAlphanum = true ∨ c = '-' ∨ c = '_'

def AccessKey (s : List Char) : Prop :=
  16 ≤ s.length ∧ s.length ≤ 128 ∧ ∀ c ∈ s, c.isAlphanum = true ∨ c = '_'

/-- The number a text of digits stands for. -/
def decimal (s : List Char) : Nat := s.foldl (fun n c => 10 * n + (c.toNat - '0'.toNat)) 0

/-- One to three digits, for a number up to 255. -/
def DecimalPart (s : List Char) : Prop :=
  1 ≤ s.length ∧ s.length ≤ 3 ∧ (∀ c ∈ s, c.isDigit = true) ∧ decimal s ≤ 255

def Ipv4Address (s : List Char) : Prop :=
  ∃ a b c d, s = a ++ '.' :: (b ++ '.' :: (c ++ '.' :: d)) ∧
    DecimalPart a ∧ DecimalPart b ∧ DecimalPart c ∧ DecimalPart d

def lowerOrDigit (c : Char) : Bool := c.isLower || c.isDigit

/-- The characters of a bucket name. -/
structure BucketShape (s : List Char) : Prop where
  least : 4 ≤ s.length
  most : s.length ≤ 56
  chars : ∀ c ∈ s, lowerOrDigit c = true ∨ c = '-' ∨ c = '.'
  first : ∀ c, s.head? = some c → lowerOrDigit c = true
  last : ∀ c, s.getLast? = some c → lowerOrDigit c = true

structure BucketName (s : List Char) : Prop extends BucketShape s where
  no_xn : ¬ "xn--".toList <+: s
  no_address : ¬ Ipv4Address s

/-! ## Classes -/

theorem inSet_cons (range : Char × Char) (ranges : List (Char × Char)) (c : Char) :
    inSet (range :: ranges) c = true ↔
      (range.1.toNat ≤ c.toNat ∧ c.toNat ≤ range.2.toNat) ∨ inSet ranges c = true := by
  rw [inSet, List.any_cons, Bool.or_eq_true, decide_eq_true_eq]
  rfl

section

variable (ranges : List (Char × Char)) (c c' : Char)

@[simp] theorem inSet_nil : inSet [] c = false := rfl

@[simp] theorem inSet_az : inSet (az :: ranges) c = true ↔
    c.isLower = true ∨ inSet ranges c = true := by
  have hlower : c.isLower = true ↔ az.1.toNat ≤ c.toNat ∧ c.toNat ≤ az.2.toNat := by
    show (decide (c.val ≥ 'a'.val) && decide (c.val ≤ 'z'.val)) = true ↔ _
    rw [Bool.and_eq_true, decide_eq_true_eq, decide_eq_true_eq]
    rfl
  rw [inSet_cons, hlower]

@[simp] theorem inSet_AZ : inSet (AZ :: ranges) c = true ↔
    c.isUpper = true ∨ inSet ranges c = true := by
  have hupper : c.isUpper = true ↔ AZ.1.toNat ≤ c.toNat ∧ c.toNat ≤ AZ.2.toNat := by
    show decide (c.val ≥ 'A'.val ∧ c.val ≤ 'Z'.val) = true ↔ _
    rw [decide_eq_true_eq]
    rfl
  rw [inSet_cons, hupper]

@[simp] theorem inSet_digits : inSet (digits :: ranges) c = true ↔
    c.isDigit = true ∨ inSet ranges c = true := by
  rw [inSet_cons, Char.isDigit, Bool.and_eq_true, decide_eq_true_eq, decide_eq_true_eq]
  rfl

@[simp] theorem inSet_one : inSet ((c', c') :: ranges) c = true ↔
    c = c' ∨ inSet ranges c = true := by
  rw [inSet_cons]
  refine or_congr_left ⟨fun h => ?_, fun h => h ▸ ⟨Nat.le_refl _, Nat.le_refl _⟩⟩
  exact Char.toNat_inj.mp (Nat.le_antisymm h.2 h.1)

end

theorem isAlpha_iff (c : Char) : c.isAlpha = true ↔ c.isUpper = true ∨ c.isLower = true := by
  show (c.isUpper || c.isLower) = true ↔ _
  rw [Bool.or_eq_true]

/-! ## The languages of the patterns -/

theorem lang_userName {s : List Char} : userNamePattern.Lang s ↔ UserName s := by
  rw [userNamePattern, Pattern.lang_rep_set, UserName]
  refine and_congr_right fun _ => and_congr_right fun _ => forall₂_congr fun c _ => ?_
  simp only [inSet_az, inSet_AZ, inSet_digits, inSet_one, inSet_nil, Char.isAlphanum,
    Bool.or_eq_true, isAlpha_iff]
  grind

theorem lang_accessKey {s : List Char} : accessKeyPattern.Lang s ↔ AccessKey s := by
  rw [accessKeyPattern, Pattern.lang_rep_set, AccessKey]
  refine and_congr_right fun _ => and_congr_right fun _ => forall₂_congr fun c _ => ?_
  simp only [inSet_az, inSet_AZ, inSet_digits, inSet_one, inSet_nil, Char.isAlphanum,
    Bool.or_eq_true, isAlpha_iff]
  grind

/-- The digits up to one of them. -/
theorem inSet_upTo (hi c : Char) :
    inSet [('0', hi)] c = true ↔ '0'.toNat ≤ c.toNat ∧ c.toNat ≤ hi.toNat := by
  rw [inSet_cons, inSet_nil]
  exact or_iff_left Bool.false_ne_true

theorem isDigit_iff (c : Char) : c.isDigit = true ↔ '0'.toNat ≤ c.toNat ∧ c.toNat ≤ '9'.toNat := by
  rw [← inSet_upTo '9' c]
  exact ⟨fun h => (inSet_digits [] c).mpr (.inl h),
    fun h => ((inSet_digits [] c).mp h).resolve_right Bool.false_ne_true⟩

theorem eq_two (c : Char) : c = '2' ↔ c.toNat = 50 := (@Char.toNat_inj c '2').symm

theorem eq_five (c : Char) : c = '5' ↔ c.toNat = 53 := (@Char.toNat_inj c '5').symm

/-- A part is a number of one to three digits up to 255. -/
theorem lang_part {s : List Char} : partPattern.Lang s ↔ DecimalPart s := by
  rw [DecimalPart]
  simp only [partPattern, Pattern.lang_alt, Pattern.lang_seq_opt, Pattern.lang_seq_lit,
    Pattern.lang_seq_set, Pattern.lang_opt_set, Pattern.lang_set, inSet_digits, inSet_nil,
    Bool.false_eq_true, or_false, inSet_upTo, isDigit_iff]
  rcases s with _ | ⟨a, _ | ⟨b, _ | ⟨c, _ | ⟨d, rest⟩⟩⟩⟩
  · simp
  · simp [decimal]
    omega
  · simp [decimal]
    omega
  · simp [decimal]
    simp only [eq_two, eq_five]
    omega
  · simp

theorem lang_ipv4 {s : List Char} : ipv4Pattern.Lang s ↔ Ipv4Address s := by
  constructor
  · rintro ⟨a, _, rfl, ha, hrest⟩
    obtain ⟨_, rfl, b, _, rfl, hb, hrest⟩ := Pattern.lang_seq_lit.mp hrest
    obtain ⟨_, rfl, c, _, rfl, hc, hrest⟩ := Pattern.lang_seq_lit.mp hrest
    obtain ⟨d, rfl, hd⟩ := Pattern.lang_seq_lit.mp hrest
    exact ⟨a, b, c, d, rfl, lang_part.mp ha, lang_part.mp hb, lang_part.mp hc, lang_part.mp hd⟩
  · rintro ⟨a, b, c, d, rfl, ha, hb, hc, hd⟩
    refine ⟨a, _, rfl, lang_part.mpr ha, Pattern.lang_seq_lit.mpr ⟨_, rfl, b, _, rfl,
      lang_part.mpr hb, Pattern.lang_seq_lit.mpr ⟨_, rfl, c, _, rfl, lang_part.mpr hc,
        Pattern.lang_seq_lit.mpr ⟨d, rfl, lang_part.mpr hd⟩⟩⟩⟩

theorem inSet_lowerOrDigit (c : Char) : inSet [az, digits] c = true ↔ lowerOrDigit c = true := by
  simp [lowerOrDigit]

theorem inSet_bucket (c : Char) : inSet [az, digits, ('-', '-'), ('.', '.')] c = true ↔
    lowerOrDigit c = true ∨ c = '-' ∨ c = '.' := by
  simp [lowerOrDigit, or_assoc]

theorem lang_bucketName {s : List Char} :
    BucketNameValidator.bucketNamePattern.Lang s ↔ BucketShape s := by
  constructor
  · intro h
    obtain ⟨c, _, rfl, hc, mid, _, rfl, hmid, c', rfl, hc'⟩ := Pattern.lang_seq_set.mp h
    obtain ⟨hleast, hmost, hchars⟩ := Pattern.lang_rep_set.mp hmid
    rw [inSet_lowerOrDigit] at hc hc'
    constructor
    · simp only [List.length_cons, List.length_append, List.length_nil]
      omega
    · simp only [List.length_cons, List.length_append, List.length_nil]
      omega
    · intro x hx
      rcases List.mem_cons.mp hx with rfl | hx
      · exact .inl hc
      · rcases List.mem_append.mp hx with hx | hx
        · exact (inSet_bucket x).mp (hchars x hx)
        · exact .inl (List.mem_singleton.mp hx ▸ hc')
    · intro x hx
      cases hx
      exact hc
    · intro x hx
      rw [← List.cons_append, List.getLast?_concat] at hx
      cases hx
      exact hc'
  · rintro ⟨hleast, hmost, hchars, hfirst, hlast⟩
    cases s with
    | nil => exact absurd hleast (by decide)
    | cons c s =>
        rcases List.eq_nil_or_concat s with rfl | ⟨mid, c', rfl⟩
        · exact absurd hleast (by simp)
        · rw [List.concat_eq_append] at hleast hmost hchars hlast ⊢
          simp only [List.length_cons, List.length_append, List.length_nil] at hleast hmost
          refine Pattern.lang_seq_set.mpr ⟨c, _, rfl, ?_, mid, [c'], rfl, ?_, c', rfl, ?_⟩
          · exact (inSet_lowerOrDigit c).mpr (hfirst c rfl)
          · refine Pattern.lang_rep_set.mpr ⟨by omega, by omega, fun x hx => ?_⟩
            exact (inSet_bucket x).mpr
              (hchars x (List.mem_cons_of_mem c (List.mem_append_left _ hx)))
          · refine (inSet_lowerOrDigit c').mpr (hlast c' ?_)
            rw [← List.cons_append, List.getLast?_concat]

/-! ## What is accepted -/

/-- A text of the language, and a newline after it. -/
def NewlineAfter (L : List Char → Prop) (s : String) : Prop := ∃ w, L w ∧ s.toList = w ++ ['\n']

theorem searchValidator_ok {pattern : Pattern} {message value : String} :
    searchValidator pattern message value = .ok () ↔ search pattern value = true := by
  rw [searchValidator]
  split
  · rename_i h
    exact iff_of_true rfl h
  · rename_i h
    exact iff_of_false (fun e => by cases e) h

theorem userName_accepted (s : String) :
    UserNameValidator s = .ok () ↔ UserName s.toList ∨ NewlineAfter UserName s := by
  rw [UserNameValidator, searchValidator_ok, Pattern.search_anchored rfl]
  simp only [lang_userName]
  rfl

theorem accessKey_accepted (s : String) :
    AccessKeyValidator s = .ok () ↔ AccessKey s.toList ∨ NewlineAfter AccessKey s := by
  rw [AccessKeyValidator, searchValidator_ok, Pattern.search_anchored rfl]
  simp only [lang_accessKey]
  rfl

theorem ipv4_accepted (s : String) :
    Ipv4 s = .ok () ↔ Ipv4Address s.toList ∨ NewlineAfter Ipv4Address s := by
  rw [Ipv4, searchValidator_ok, Pattern.search_anchored rfl]
  simp only [lang_ipv4]
  rfl

theorem check_ipv4_ok (s : String) :
    BucketNameValidator._check_ipv4 s = .ok () ↔ ¬ Ipv4 s = .ok () := by
  rw [BucketNameValidator._check_ipv4]
  cases Ipv4 s with
  | ok => exact iff_of_false (fun e => by cases e) fun h => h rfl
  | error e => exact iff_of_true rfl fun h => by cases h

theorem bucketName_tests (s : String) : BucketNameValidator s = .ok () ↔
    BucketNameValidator.is_value_valid s = true ∧ ¬ "xn--".toList <+: s.toList ∧
      ¬ Ipv4 s = .ok () := by
  rw [BucketNameValidator, ← List.isPrefixOf_iff_prefix, ← check_ipv4_ok]
  split
  · rename_i h
    exact iff_of_false (fun e => by cases e) fun hv => by simp [hv.1] at h
  · rename_i h
    have hvalid : BucketNameValidator.is_value_valid s = true := by simpa using h
    split
    · rename_i hxn
      exact iff_of_false (fun e => by cases e) fun hv => hv.2.1 hxn
    · rename_i hxn
      exact ⟨fun hok => ⟨hvalid, hxn, hok⟩, fun hv => hv.2.2⟩

/-- No text of the language ends with a newline. -/
def NoNewline (L : List Char → Prop) : Prop := ∀ w, ¬ L (w ++ ['\n'])

theorem userName_noNewline : NoNewline UserName := by
  intro w h
  have hlast := h.2.2 '\n' (List.mem_append_right w (List.mem_singleton_self _))
  revert hlast
  decide

theorem accessKey_noNewline : NoNewline AccessKey := by
  intro w h
  have hlast := h.2.2 '\n' (List.mem_append_right w (List.mem_singleton_self _))
  revert hlast
  decide

theorem bucketShape_noNewline : NoNewline BucketShape := by
  intro w h
  have hlast := h.chars '\n' (List.mem_append_right w (List.mem_singleton_self _))
  revert hlast
  decide

theorem ipv4_noNewline : NoNewline Ipv4Address := by
  rintro w ⟨a, b, c, d, heq, ha, hb, hc, hd⟩
  have hchars : ∀ x ∈ a ++ '.' :: (b ++ '.' :: (c ++ '.' :: d)), x.isDigit = true ∨ x = '.' := by
    intro x hx
    simp only [List.mem_append, List.mem_cons] at hx
    rcases hx with hx | rfl | hx | rfl | hx | rfl | hx
    · exact .inl (ha.2.2.1 x hx)
    · exact .inr rfl
    · exact .inl (hb.2.2.1 x hx)
    · exact .inr rfl
    · exact .inl (hc.2.2.1 x hx)
    · exact .inr rfl
    · exact .inl (hd.2.2.1 x hx)
  have hlast := hchars '\n' (heq ▸ List.mem_append_right w (List.mem_singleton_self _))
  revert hlast
  decide

theorem bucketName_accepted (s : String) :
    BucketNameValidator s = .ok () ↔ BucketName s.toList ∨ NewlineAfter BucketName s := by
  rw [bucketName_tests, BucketNameValidator.is_value_valid, Pattern.search_anchored rfl,
    ipv4_accepted]
  simp only [lang_bucketName]
  constructor
  · rintro ⟨hshape | ⟨w, hshape, hs⟩, hxn, haddress⟩
    · exact .inl ⟨hshape, hxn, fun ha => haddress (.inl ha)⟩
    · refine .inr ⟨w, ⟨hshape, fun hw => hxn ?_, fun ha => haddress (.inr ⟨w, ha, hs⟩)⟩, hs⟩
      rw [hs]
      exact hw.trans (List.prefix_append w _)
  · rintro (h | ⟨w, h, hs⟩)
    · refine ⟨.inl h.toBucketShape, h.no_xn, ?_⟩
      rintro (ha | ⟨w, -, hs⟩)
      · exact h.no_address ha
      · exact bucketShape_noNewline w (hs ▸ h.toBucketShape)
    · refine ⟨.inr ⟨w, h.toBucketShape, hs⟩, fun hxn => h.no_xn ?_, ?_⟩
      · -- the prefix is no longer than the name
        rw [hs] at hxn
        exact List.prefix_of_prefix_length_le hxn (List.prefix_append w _) h.least
      · rintro (ha | ⟨w', ha, hs'⟩)
        · exact ipv4_noNewline w (hs ▸ ha)
        · have hw : w' = w := List.append_cancel_right (hs'.symm.trans hs)
          exact h.no_address (hw ▸ ha)

/-- A validator is exact where no newline after a name deceives it. -/
theorem exact_iff {accepted : Prop} {L : List Char → Prop} {s : String}
    (haccepted : accepted ↔ L s.toList ∨ NewlineAfter L s) (hclean : NoNewline L) :
    (accepted ↔ L s.toList) ↔ ¬ NewlineAfter L s := by
  rw [haccepted]
  constructor
  · rintro h ⟨w, hw, hs⟩
    have hmem := h.mp (.inr ⟨w, hw, hs⟩)
    rw [hs] at hmem
    exact hclean w hmem
  · intro h
    exact or_iff_left h

/-- The three validators accept what they document, the names followed by a newline apart. -/
theorem names_exact_iff (s : String) :
    ((UserNameValidator s = .ok () ↔ UserName s.toList) ↔ ¬ NewlineAfter UserName s) ∧
    ((AccessKeyValidator s = .ok () ↔ AccessKey s.toList) ↔ ¬ NewlineAfter AccessKey s) ∧
    ((BucketNameValidator s = .ok () ↔ BucketName s.toList) ↔ ¬ NewlineAfter BucketName s) :=
  ⟨exact_iff (userName_accepted s) userName_noNewline,
    exact_iff (accessKey_accepted s) accessKey_noNewline,
    exact_iff (bucketName_accepted s) fun w h => bucketShape_noNewline w h.toBucketShape⟩

/-- The characters are tested one by one, not all there are. -/
theorem forall_of_all {p : Char → Prop} [DecidablePred p] {s : List Char}
    (h : (s.all fun c => decide (p c)) = true) : ∀ c ∈ s, p c := by
  simpa [List.all_eq_true] using h

theorem bucketName_logs : BucketName "logs".toList where
  least := by decide
  most := by decide
  chars := forall_of_all (by decide +kernel)
  first c hc := by
    obtain rfl : 'l' = c := Option.some.inj hc
    decide
  last c hc := by
    obtain rfl : 's' = c := Option.some.inj hc
    decide
  no_xn := by decide +kernel
  no_address ha := by
    have haccepted := (ipv4_accepted "logs").mpr (.inl ha)
    revert haccepted
    decide +kernel

/-- A name followed by a newline. -/
theorem name_with_newline :
    ¬ (UserNameValidator "admin\n" = .ok () ↔ UserName "admin\n".toList) ∧
    ¬ (AccessKeyValidator "AKIA000000000000\n" = .ok () ↔
      AccessKey "AKIA000000000000\n".toList) ∧
    ¬ (BucketNameValidator "logs\n" = .ok () ↔ BucketName "logs\n".toList) := by
  refine ⟨fun h => ?_, fun h => ?_, fun h => ?_⟩
  · refine (exact_iff (userName_accepted _) userName_noNewline).mp h ⟨"admin".toList, ?_, rfl⟩
    exact ⟨by decide, by decide, forall_of_all (by decide +kernel)⟩
  · refine (exact_iff (accessKey_accepted _) accessKey_noNewline).mp h
      ⟨"AKIA000000000000".toList, ?_, rfl⟩
    exact ⟨by decide, by decide, forall_of_all (by decide +kernel)⟩
  · exact (exact_iff (bucketName_accepted _) fun w h => bucketShape_noNewline w h.toBucketShape).mp
      h ⟨"logs".toList, bucketName_logs, rfl⟩

end CortxCsm
