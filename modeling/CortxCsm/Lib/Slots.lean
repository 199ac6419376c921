/-
# `CortxCsm.Lib.Slots` — numbered slots with gaps

Slots are a partial function on the numbers.  A list with holes is written over them
(`overlay`): an entry replaces what its slot held, a hole leaves it.  After several lists a
slot holds the last entry that any of them had for it (`latest`).

`scan` reads the slots from the first one on, until one that is empty or that `p` accepts
(`EndsAt`).  It has enough fuel with one more than the number of an empty slot.
-/
import Mathlib.Data.List.Induction
import Mathlib.Data.Nat.Find

/-- What each slot holds. -/
abbrev Slots (α : Type) := Nat → Option α

namespace Slots

variable {α β : Type}

/-! ## Writing -/

/-- The entries of the list, and below its holes and past its end the slots. -/
def overlay (f : Slots α) (l : List (Option α)) : Slots α := fun i => (l[i]?.join).or (f i)

def empty : Slots α := fun _ => none

/-- The slots after the lists, the last one on top. -/
def latest (lists : List (List (Option α))) : Slots α := lists.foldl overlay empty

theorem latest_concat (lists : List (List (Option α))) (l : List (Option α)) :
    latest (lists ++ [l]) = (latest lists).overlay l := by
  rw [latest, List.foldl_append]
  rfl

/-- Every entry that is kept comes from one of the lists. -/
theorem mem_of_latest {i : Nat} {a : α} (lists : List (List (Option α)))
    (h : latest lists i = some a) : ∃ l ∈ lists, l[i]? = some (some a) := by
  induction lists using List.reverseRecOn with
  | nil => cases h
  | append_singleton lists l ih =>
      rw [latest_concat, overlay] at h
      rcases Option.or_eq_some_iff.mp h with hl | ⟨-, hlists⟩
      · exact ⟨l, List.mem_append_right _ List.mem_cons_self, Option.join_eq_some_iff.mp hl⟩
      · obtain ⟨l', hl', he⟩ := ih hlists
        exact ⟨l', List.mem_append_left _ hl', he⟩

/-- The slots with every entry changed. -/
def map (g : α → β) (f : Slots α) : Slots β := fun i => (f i).map g

theorem map_overlay (g : α → β) (f : Slots α) (l : List (Option α)) :
    (f.map g).overlay (l.map (Option.map g)) = (f.overlay l).map g := by
  funext i
  rw [overlay, map, map, overlay, List.getElem?_map]
  cases l[i]? with
  | none => rfl
  | some entry =>
      cases entry with
      | none => rfl
      | some a => rfl

/-! ## Reading up to the first gap -/

section
variable (p : α → Bool) (f : Slots α)

/-- `none` where the fuel runs out; else the entry accepted, or that there was a gap first. -/
def scan : Nat → Nat → Option (Option α)
  | 0, _ => none
  | fuel + 1, i =>
      match f i with
      | none => some none
      | some a => if p a then some (some a) else scan fuel (i + 1)

/-- The slot holds an entry that `p` does not accept. -/
def Passes (i : Nat) : Prop := ∃ a, f i = some a ∧ p a = false

/-- Slot `i` is the first one that is empty or accepted, and holds `r`. -/
structure EndsAt (i : Nat) (r : Option α) : Prop where
  before : ∀ j < i, Passes p f j
  holds : f i = r
  accepted : ∀ a ∈ r, p a = true

end

variable {p : α → Bool} {f : Slots α}

theorem EndsAt.not_passes {i : Nat} {r : Option α} (h : EndsAt p f i r) : ¬ Passes p f i := by
  rintro ⟨a, ha, hp⟩
  have htrue := h.accepted a (h.holds.symm.trans ha)
  rw [hp] at htrue
  cases htrue

theorem EndsAt.unique {i i' : Nat} {r r' : Option α} (h : EndsAt p f i r)
    (h' : EndsAt p f i' r') : i = i' ∧ r = r' := by
  have hi : i = i' := by
    rcases lt_trichotomy i i' with hlt | heq | hgt
    · exact absurd (h'.before i hlt) h.not_passes
    · exact heq
    · exact absurd (h.before i' hgt) h'.not_passes
  subst hi
  exact ⟨rfl, h.holds.symm.trans h'.holds⟩

theorem EndsAt.map {g : α → β} {q : β → Bool} {i : Nat} {r : Option α}
    (h : EndsAt (fun a => q (g a)) f i r) : EndsAt q (f.map g) i (r.map g) where
  before j hj := by
    obtain ⟨a, ha, hp⟩ := h.before j hj
    exact ⟨g a, congrArg (Option.map g) ha, hp⟩
  holds := congrArg (Option.map g) h.holds
  accepted b hb := by
    obtain ⟨a, ha, rfl⟩ := Option.map_eq_some_iff.mp hb
    exact h.accepted a ha

/-- From slot `k` on, all slots before it passed. -/
theorem scan_endsAt : ∀ {fuel k : Nat} {r : Option α}, (∀ j < k, Passes p f j) →
    scan p f fuel k = some r → ∃ i, EndsAt p f i r
  | 0, _, _, _, h => by cases h
  | fuel + 1, k, r, hk, h => by
      rw [scan] at h
      cases hf : f k with
      | none =>
          rw [hf] at h
          obtain rfl := Option.some.inj h
          exact ⟨k, hk, hf, fun a ha => by cases ha⟩
      | some a =>
          rw [hf] at h
          cases ha : p a with
          | true =>
              simp only [ha, if_true] at h
              obtain rfl := Option.some.inj h
              refine ⟨k, hk, hf, ?_⟩
              intro b hb
              exact Option.some.inj hb ▸ ha
          | false =>
              simp only [ha] at h
              refine scan_endsAt ?_ h
              intro j hj
              rcases Nat.lt_succ_iff_lt_or_eq.mp hj with hj | rfl
              · exact hk j hj
              · exact ⟨a, hf, ha⟩

theorem scan_of_endsAt : ∀ {fuel k i : Nat} {r : Option α}, EndsAt p f i r → k ≤ i →
    i < k + fuel → scan p f fuel k = some r
  | 0, _, _, _, _, hki, hlt => by omega
  | fuel + 1, k, i, r, h, hki, hlt => by
      rw [scan]
      rcases Nat.eq_or_lt_of_le hki with rfl | hki
      · rw [h.holds]
        cases r with
        | none => rfl
        | some a => simp [h.accepted a rfl]
      · obtain ⟨a, ha, hp⟩ := h.before k hki
        simp only [ha, hp]
        exact scan_of_endsAt h hki (by omega)

/-- Below an empty slot there is one where the scan ends. -/
theorem exists_endsAt {g : Nat} (hg : f g = none) : ∃ i ≤ g, ∃ r, EndsAt p f i r := by
  classical
  have hex : ∃ i, ¬ Passes p f i := ⟨g, fun ⟨a, ha, _⟩ => by rw [hg] at ha; cases ha⟩
  refine ⟨Nat.find hex, Nat.find_min' hex ?_, f (Nat.find hex), ?_, rfl, ?_⟩
  · rintro ⟨a, ha, _⟩
    rw [hg] at ha
    cases ha
  · intro j hj
    exact not_not.mp (Nat.find_min hex hj)
  · intro a ha
    cases hp : p a with
    | true => rfl
    | false => exact absurd ⟨a, ha, hp⟩ (Nat.find_spec hex)

/-- With fuel past an empty slot the scan ends, and with the entry of the slot it ends at. -/
theorem scan_eq_some_iff {g fuel : Nat} (hg : f g = none) (hfuel : g < fuel) {r : Option α} :
    scan p f fuel 0 = some r ↔ ∃ i, EndsAt p f i r := by
  constructor
  · intro h
    exact scan_endsAt (fun j hj => absurd hj (Nat.not_lt_zero j)) h
  · rintro ⟨i, h⟩
    obtain ⟨i', hi', r', h'⟩ := exists_endsAt (p := p) hg
    obtain ⟨rfl, rfl⟩ := h.unique h'
    exact scan_of_endsAt h (Nat.zero_le i) (by omega)

theorem scan_isSome {g fuel : Nat} (hg : f g = none) (hfuel : g < fuel) :
    (scan p f fuel 0).isSome := by
  obtain ⟨i, _, r, h⟩ := exists_endsAt (p := p) hg
  rw [(scan_eq_some_iff hg hfuel).mpr ⟨i, h⟩]
  rfl

end Slots
