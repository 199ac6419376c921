/-
# `CortxCsm.Lib.Pattern` — regular expressions, as Python searches for them

A pattern is matched against a text from some place on; `run` lists the places where a match
may end.  Of what lies before a place only one thing matters, whether it is nothing, for
`^`.  Of what lies after it `$` looks at all: it matches at the end of the text, and also
before a newline that is the last character.

`search` tries every place of the text.  Groups, classes of one character, bounded
repetition and alternatives are covered; which of several matches is found makes no
difference to whether there is one, so that the order in which Python tries them is left
out.

`Lang` is the language of a pattern without anchors, as sets of texts.  What a search with
a pattern between `^` and `$` finds is that language, and with it every text of it followed
by one newline (`search_anchored`).
-/
import Mathlib.Data.List.Basic

inductive Pattern
  /-- One character in one of the ranges: `[a-z0-9_]`. -/
  | set (ranges : List (Char × Char))
  /-- `^` -/
  | start
  /-- `$` -/
  | stop
  | seq (r s : Pattern)
  | alt (r s : Pattern)
  /-- `r{least,most}` -/
  | rep (r : Pattern) (least most : Nat)

namespace Pattern

/-- `r?`. -/
def opt (r : Pattern) : Pattern := .rep r 0 1

/-- One character. -/
def lit (c : Char) : Pattern := .set [(c, c)]

/-- A place in a text: whether it is the first, and what comes after it. -/
structure Place where
  atStart : Bool
  rest : List Char
  deriving DecidableEq

def inSet (ranges : List (Char × Char)) (c : Char) : Bool :=
  ranges.any fun range => decide (range.1 ≤ c ∧ c ≤ range.2)

/-- `f` applied up to `more` times. -/
def upTo (f : Place → List Place) : (more : Nat) → Place → List Place
  | 0, place => [place]
  | more + 1, place => place :: (f place).flatMap (upTo f more)

/-- `f` applied `least` times, and then up to `more` times. -/
def turns (f : Place → List Place) (more : Nat) : (least : Nat) → Place → List Place
  | 0, place => upTo f more place
  | least + 1, place => (f place).flatMap (turns f more least)

/-- The places where a match that begins at a place may end. -/
def run : Pattern → Place → List Place
  | .set ranges, ⟨_, text⟩ =>
      match text with
      | [] => []
      | c :: rest => if inSet ranges c then [⟨false, rest⟩] else []
  | .start, place => if place.atStart then [place] else []
  | .stop, place => if place.rest = [] ∨ place.rest = ['\n'] then [place] else []
  | .seq r s, place => (run r place).flatMap (run s)
  | .alt r s, place => run r place ++ run s place
  | .rep r least most, place => turns (run r) (most - least) least place

/-- Whether there is a match from some place on. -/
def searchFrom (p : Pattern) (atStart : Bool) : List Char → Bool
  | [] => !(run p ⟨atStart, []⟩).isEmpty
  | c :: rest => !(run p ⟨atStart, c :: rest⟩).isEmpty || searchFrom p false rest

/-- `re.search(p, text)`. -/
def search (p : Pattern) (text : String) : Bool := searchFrom p true text.toList

/-! ## The language of a pattern -/

def anchorFree : Pattern → Bool
  | .set _ => true
  | .start | .stop => false
  | .seq r s | .alt r s => anchorFree r && anchorFree s
  | .rep r _ _ => anchorFree r

def Lang : Pattern → List Char → Prop
  | .set ranges, w => ∃ c, w = [c] ∧ inSet ranges c = true
  | .start, _ | .stop, _ => False
  | .seq r s, w => ∃ u v, w = u ++ v ∧ Lang r u ∧ Lang s v
  | .alt r s, w => Lang r w ∨ Lang s w
  | .rep r least most, w => ∃ ws : List (List Char),
      least ≤ ws.length ∧ ws.length ≤ least + (most - least) ∧ w = ws.flatten ∧ ∀ u ∈ ws, Lang r u

/-- A match of a language: what is read, and the place after it. -/
def Reads (L : List Char → Prop) (place place' : Place) : Prop :=
  ∃ w, L w ∧ place.rest = w ++ place'.rest ∧ place'.atStart = (place.atStart && w.isEmpty)

/-- Reading nothing. -/
theorem reads_nil {place place' : Place} : Reads (· = []) place place' ↔ place' = place := by
  constructor
  · rintro ⟨w, rfl, hrest, hstart⟩
    obtain ⟨atStart, rest⟩ := place'
    cases hrest
    rw [List.isEmpty_nil, Bool.and_true] at hstart
    cases hstart
    rfl
  · rintro rfl
    exact ⟨[], rfl, rfl, by simp⟩

theorem isEmpty_append {α : Type} (u v : List α) :
    (u ++ v).isEmpty = (u.isEmpty && v.isEmpty) := by
  cases u <;> rfl

/-- Reading twice. -/
theorem reads_append {L L' : List Char → Prop} {place place' : Place} :
    (∃ next, Reads L place next ∧ Reads L' next place') ↔
      Reads (fun w => ∃ u v, w = u ++ v ∧ L u ∧ L' v) place place' := by
  constructor
  · rintro ⟨next, ⟨u, hu, hrest, hstart⟩, v, hv, hrest', hstart'⟩
    refine ⟨u ++ v, ⟨u, v, rfl, hu, hv⟩, ?_, ?_⟩
    · rw [hrest, hrest', List.append_assoc]
    · rw [hstart', hstart, isEmpty_append, Bool.and_assoc]
  · rintro ⟨_, ⟨u, v, rfl, hu, hv⟩, hrest, hstart⟩
    refine ⟨⟨place.atStart && u.isEmpty, v ++ place'.rest⟩, ⟨u, hu, ?_, rfl⟩, v, hv, rfl, ?_⟩
    · rw [hrest, List.append_assoc]
    · rw [hstart, isEmpty_append, Bool.and_assoc]

/-- Reading the one or the other. -/
theorem reads_or {L L' : List Char → Prop} {place place' : Place} :
    Reads (fun w => L w ∨ L' w) place place' ↔ Reads L place place' ∨ Reads L' place place' := by
  simp only [Reads, or_and_right, exists_or]

theorem reads_congr {L L' : List Char → Prop} (h : ∀ w, L w ↔ L' w) {place place' : Place} :
    Reads L place place' ↔ Reads L' place place' :=
  exists_congr fun w => and_congr_left fun _ => h w

/-- The texts of `least` up to `least + more` texts of `L` in a row. -/
def Repeated (L : List Char → Prop) (least more : Nat) (w : List Char) : Prop :=
  ∃ ws : List (List Char), least ≤ ws.length ∧ ws.length ≤ least + more ∧ w = ws.flatten ∧
    ∀ u ∈ ws, L u

theorem repeated_zero_zero {L : List Char → Prop} {w : List Char} : Repeated L 0 0 w ↔ w = [] := by
  constructor
  · rintro ⟨ws, -, hlen, rfl, -⟩
    rw [List.length_eq_zero_iff.mp (Nat.le_zero.mp hlen)]
    rfl
  · rintro rfl
    exact ⟨[], Nat.le_refl 0, Nat.le_refl 0, rfl, fun _ h => absurd h List.not_mem_nil⟩

theorem repeated_zero_succ {L : List Char → Prop} {more : Nat} {w : List Char} :
    Repeated L 0 (more + 1) w ↔ w = [] ∨ ∃ u v, w = u ++ v ∧ L u ∧ Repeated L 0 more v := by
  constructor
  · rintro ⟨ws, -, hlen, rfl, hws⟩
    cases ws with
    | nil => exact .inl rfl
    | cons u ws =>
        rw [List.length_cons] at hlen
        exact .inr ⟨u, ws.flatten, rfl, hws u List.mem_cons_self, ws, Nat.zero_le _, by omega, rfl,
          fun v hv => hws v (List.mem_cons_of_mem u hv)⟩
  · rintro (rfl | ⟨u, v, rfl, hu, ws, -, hlen, rfl, hws⟩)
    · exact ⟨[], Nat.le_refl 0, Nat.zero_le _, rfl, fun _ h => absurd h List.not_mem_nil⟩
    · exact ⟨u :: ws, Nat.zero_le _, by rw [List.length_cons]; omega, rfl,
        List.forall_mem_cons.mpr ⟨hu, hws⟩⟩

theorem repeated_succ {L : List Char → Prop} {least more : Nat} {w : List Char} :
    Repeated L (least + 1) more w ↔ ∃ u v, w = u ++ v ∧ L u ∧ Repeated L least more v := by
  constructor
  · rintro ⟨ws, hleast, hlen, rfl, hws⟩
    cases ws with
    | nil => exact absurd hleast (Nat.not_succ_le_zero least)
    | cons u ws =>
        rw [List.length_cons] at hleast hlen
        exact ⟨u, ws.flatten, rfl, hws u List.mem_cons_self, ws, by omega, by omega, rfl,
          fun v hv => hws v (List.mem_cons_of_mem u hv)⟩
  · rintro ⟨u, v, rfl, hu, ws, hleast, hlen, rfl, hws⟩
    exact ⟨u :: ws, by rw [List.length_cons]; omega, by rw [List.length_cons]; omega, rfl,
      List.forall_mem_cons.mpr ⟨hu, hws⟩⟩

theorem mem_upTo {f : Place → List Place} {L : List Char → Prop}
    (hf : ∀ place place', place' ∈ f place ↔ Reads L place place') (more : Nat)
    (place place' : Place) :
    place' ∈ upTo f more place ↔ Reads (Repeated L 0 more) place place' := by
  induction more generalizing place with
  | zero => rw [upTo, List.mem_singleton, reads_congr fun w => repeated_zero_zero, reads_nil]
  | succ more ih =>
      rw [upTo, List.mem_cons, List.mem_flatMap, reads_congr fun w => repeated_zero_succ]
      simp only [hf, ih]
      rw [reads_append, ← reads_nil, ← reads_or]

/-- Repeating what reads `L`. -/
theorem mem_turns {f : Place → List Place} {L : List Char → Prop}
    (hf : ∀ place place', place' ∈ f place ↔ Reads L place place') (least more : Nat)
    (place place' : Place) :
    place' ∈ turns f more least place ↔ Reads (Repeated L least more) place place' := by
  induction least generalizing place with
  | zero => exact mem_upTo hf more place place'
  | succ least ih =>
      rw [turns, List.mem_flatMap, reads_congr fun w => repeated_succ]
      simp only [hf, ih]
      exact reads_append

/-- What a pattern without anchors matches is what reads its language. -/
theorem mem_run {p : Pattern} (h : p.anchorFree = true) (place place' : Place) :
    place' ∈ run p place ↔ Reads (Lang p) place place' := by
  induction p generalizing place place' with
  | set ranges =>
      obtain ⟨atStart, text⟩ := place
      cases text with
      | nil =>
          refine iff_of_false List.not_mem_nil ?_
          rintro ⟨w, ⟨c, rfl, -⟩, hrest, -⟩
          cases hrest
      | cons c rest =>
          rw [run]
          constructor
          · intro hmem
            split at hmem
            · rename_i hc
              cases List.mem_singleton.mp hmem
              exact ⟨[c], ⟨c, rfl, hc⟩, rfl, (Bool.and_false atStart).symm⟩
            · cases hmem
          · rintro ⟨w, ⟨c', rfl, hc⟩, hrest, hstart⟩
            obtain ⟨atStart', rest'⟩ := place'
            cases hrest
            rw [if_pos hc, List.mem_singleton]
            rw [List.isEmpty_cons, Bool.and_false] at hstart
            cases hstart
            rfl
  | start => cases h
  | stop => cases h
  | seq r s ihr ihs =>
      rw [anchorFree, Bool.and_eq_true] at h
      rw [run, List.mem_flatMap]
      simp only [ihr h.1, ihs h.2]
      exact reads_append
  | alt r s ihr ihs =>
      rw [anchorFree, Bool.and_eq_true] at h
      rw [run, List.mem_append, ihr h.1, ihs h.2, ← reads_or]
      rfl
  | rep r least most ih =>
      rw [run]
      exact mem_turns (ih h) least (most - least) place place'

/-! ## Searching between anchors -/

/-- `^r$`. -/
def anchored (r : Pattern) : Pattern := .seq .start (.seq r .stop)

theorem run_anchored (r : Pattern) (text : List Char) :
    run (anchored r) ⟨true, text⟩ = (run r ⟨true, text⟩).flatMap (run .stop) := by
  rw [anchored, run, run, if_pos rfl, List.flatMap_singleton]
  rfl

/-- Nothing is found after the first place. -/
theorem searchFrom_anchored (r : Pattern) (text : List Char) :
    searchFrom (anchored r) false text = false := by
  induction text with
  | nil => rfl
  | cons c rest ih => rw [searchFrom, ih]; rfl

theorem search_eq (r : Pattern) (text : String) :
    search (anchored r) text = !(run (anchored r) ⟨true, text.toList⟩).isEmpty := by
  rw [search]
  cases text.toList with
  | nil => rfl
  | cons c rest => rw [searchFrom, searchFrom_anchored, Bool.or_false]

theorem mem_run_stop {place place' : Place} :
    place' ∈ run .stop place ↔ place' = place ∧ (place.rest = [] ∨ place.rest = ['\n']) := by
  rw [run]
  split
  · rename_i h
    rw [List.mem_singleton]
    exact (and_iff_left h).symm
  · rename_i h
    exact iff_of_false List.not_mem_nil fun hp => h hp.2

/-- A search between anchors finds the texts of the language, and those followed by one
newline. -/
theorem search_anchored {r : Pattern} (h : r.anchorFree = true) (text : String) :
    search (anchored r) text = true ↔
      Lang r text.toList ∨ ∃ w, Lang r w ∧ text.toList = w ++ ['\n'] := by
  rw [search_eq, run_anchored, Bool.not_eq_true', List.isEmpty_eq_false_iff_exists_mem]
  simp only [List.mem_flatMap, mem_run h, mem_run_stop]
  constructor
  · rintro ⟨_, place, ⟨w, hw, hrest, -⟩, rfl, hstop⟩
    rcases hstop with hstop | hstop
    · have htext : text.toList = w := by rw [hstop, List.append_nil] at hrest; exact hrest
      exact .inl (htext ▸ hw)
    · have htext : text.toList = w ++ ['\n'] := by rw [hstop] at hrest; exact hrest
      exact .inr ⟨w, hw, htext⟩
  · rintro (hw | ⟨w, hw, htext⟩)
    · exact ⟨_, ⟨true && text.toList.isEmpty, []⟩, ⟨_, hw, (List.append_nil _).symm, rfl⟩, rfl,
        .inl rfl⟩
    · exact ⟨_, ⟨true && w.isEmpty, ['\n']⟩, ⟨w, hw, htext, rfl⟩, rfl, .inr rfl⟩

/-! ## Languages -/

/-- Texts of one character each. -/
theorem singletons {P : Char → Prop} {ws : List (List Char)}
    (h : ∀ u ∈ ws, ∃ c, u = [c] ∧ P c) :
    ∃ w : List Char, ws = w.map (fun c => [c]) ∧ ∀ c ∈ w, P c := by
  induction ws with
  | nil => exact ⟨[], rfl, fun _ hc => absurd hc List.not_mem_nil⟩
  | cons u ws ih =>
      obtain ⟨c, rfl, hc⟩ := h u List.mem_cons_self
      obtain ⟨w, rfl, hw⟩ := ih fun v hv => h v (List.mem_cons_of_mem _ hv)
      exact ⟨c :: w, rfl, List.forall_mem_cons.mpr ⟨hc, hw⟩⟩

theorem flatten_singletons (w : List Char) : (w.map fun c => [c]).flatten = w :=
  List.flatMap_singleton' w

/-- The texts of one class repeated. -/
theorem lang_rep_set {ranges : List (Char × Char)} {least most : Nat} {w : List Char} :
    Lang (.rep (.set ranges) least most) w ↔
      least ≤ w.length ∧ w.length ≤ least + (most - least) ∧ ∀ c ∈ w, inSet ranges c = true := by
  constructor
  · rintro ⟨ws, hleast, hmost, rfl, hws⟩
    obtain ⟨w, rfl, hw⟩ := singletons hws
    rw [List.length_map] at hleast hmost
    rw [flatten_singletons]
    exact ⟨hleast, hmost, hw⟩
  · rintro ⟨hleast, hmost, hset⟩
    refine ⟨w.map fun c => [c], ?_, ?_, (flatten_singletons w).symm, ?_⟩
    · rwa [List.length_map]
    · rwa [List.length_map]
    · intro u hu
      obtain ⟨c, hc, rfl⟩ := List.mem_map.mp hu
      exact ⟨c, rfl, hset c hc⟩

/-- One of the characters of a class, or none. -/
theorem lang_opt_set {ranges : List (Char × Char)} {w : List Char} :
    Lang (opt (.set ranges)) w ↔ w = [] ∨ ∃ c, w = [c] ∧ inSet ranges c = true := by
  rw [opt, lang_rep_set]
  cases w with
  | nil => simp
  | cons c w =>
      cases w with
      | nil => simp
      | cons c' w => simp

/-- One character. -/
theorem lang_lit {c : Char} {w : List Char} : Lang (lit c) w ↔ w = [c] := by
  constructor
  · rintro ⟨c', rfl, hc⟩
    rw [inSet, List.any_cons, List.any_nil, Bool.or_false, decide_eq_true_eq] at hc
    rw [Char.le_antisymm hc.2 hc.1]
  · rintro rfl
    refine ⟨c, rfl, ?_⟩
    rw [inSet, List.any_cons, decide_eq_true ⟨Char.le_refl c, Char.le_refl c⟩, Bool.true_or]

theorem lang_alt {r r' : Pattern} {w : List Char} : Lang (.alt r r') w ↔ Lang r w ∨ Lang r' w :=
  Iff.rfl

theorem lang_set {ranges : List (Char × Char)} {w : List Char} :
    Lang (.set ranges) w ↔ ∃ c, w = [c] ∧ inSet ranges c = true := Iff.rfl

/-- One character of a class, and then the rest. -/
theorem lang_seq_set {ranges : List (Char × Char)} {r : Pattern} {w : List Char} :
    Lang (.seq (.set ranges) r) w ↔ ∃ c v, w = c :: v ∧ inSet ranges c = true ∧ Lang r v := by
  constructor
  · rintro ⟨_, v, rfl, ⟨c, rfl, hc⟩, hv⟩
    exact ⟨c, v, rfl, hc, hv⟩
  · rintro ⟨c, v, rfl, hc, hv⟩
    exact ⟨[c], v, rfl, ⟨c, rfl, hc⟩, hv⟩

theorem lang_seq_lit {c : Char} {r : Pattern} {w : List Char} :
    Lang (.seq (lit c) r) w ↔ ∃ v, w = c :: v ∧ Lang r v := by
  constructor
  · rintro ⟨u, v, rfl, hu, hv⟩
    rw [lang_lit.mp hu]
    exact ⟨v, rfl, hv⟩
  · rintro ⟨v, rfl, hv⟩
    exact ⟨[c], v, rfl, lang_lit.mpr rfl, hv⟩

/-- An optional character, and then the rest. -/
theorem lang_seq_opt {ranges : List (Char × Char)} {r : Pattern} {w : List Char} :
    Lang (.seq (opt (.set ranges)) r) w ↔ Lang r w ∨ Lang (.seq (.set ranges) r) w := by
  constructor
  · rintro ⟨u, v, rfl, hu, hv⟩
    rcases lang_opt_set.mp hu with rfl | hu
    · exact .inl hv
    · exact .inr ⟨u, v, rfl, hu, hv⟩
  · rintro (hw | ⟨u, v, rfl, hu, hv⟩)
    · exact ⟨[], w, rfl, lang_opt_set.mpr (.inl rfl), hw⟩
    · exact ⟨u, v, rfl, lang_opt_set.mpr (.inr hu), hv⟩

end Pattern
