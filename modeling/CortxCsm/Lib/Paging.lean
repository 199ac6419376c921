/-
# `CortxCsm.Lib.Paging` — a list read page by page while it changes

A reader asks for page after page of a list that is kept in order, and each page is cut out of
the list as it is at that moment.  What is in a page is decided by the `rank` of a key: how
many come before it.  Keys that come in before it push it towards pages still to be read, keys
that leave pull it back over the pages that have been read.

**Proved here.**

    the pages of a list that stays as it is are the list       (`flatten_pages`)
    a key is in the page of its rank                            (`mem_page_iff`)
    it is on no page only if one before it has left             (`left_of_missed`)
    it is on two pages only if one before it has come in        (`came_of_seen_twice`)
-/
import Mathlib.Data.List.Nodup
import Mathlib.Order.Nat
import Mathlib.Data.List.Perm.Subperm

namespace Paging

variable {κ ρ : Type}

/-- Page `n`, counted from 0. -/
def page (size n : Nat) (listing : List ρ) : List ρ := (listing.drop (n * size)).take size

theorem map_page (f : ρ → κ) (size n : Nat) (listing : List ρ) :
    (page size n listing).map f = page size n (listing.map f) := by
  unfold page
  rw [List.map_take, List.map_drop]

theorem flatten_pages (size : Nat) (listing : List ρ) : ∀ n : Nat,
    (List.range n).flatMap (fun i => page size i listing) = listing.take (n * size)
  | 0 => by simp
  | n + 1 => by
      rw [List.range_succ, List.flatMap_append, flatten_pages size listing n,
        List.flatMap_singleton, Nat.succ_mul, List.take_add]
      rfl

/-- Pages up to one that is not full. -/
theorem flatten_pages_of_last {size n : Nat} {listing : List ρ}
    (h : listing.length < (n + 1) * size) :
    (List.range (n + 1)).flatMap (fun i => page size i listing) = listing := by
  rw [flatten_pages, List.take_of_length_le h.le]

theorem length_of_last {size n : Nat} {listing : List ρ} (h : (page size n listing).length < size) :
    listing.length < (n + 1) * size := by
  unfold page at h
  rw [List.length_take, List.length_drop] at h
  rw [Nat.succ_mul]
  omega

section Rank

variable (before : κ → κ → Prop) [DecidableRel before]

/-- How many keys come before `x`. -/
def rank (x : κ) (keys : List κ) : Nat := keys.countP fun y => before y x

variable {before} {x : κ} {keys keys' : List κ}

theorem rank_lt_length [Std.Irrefl before] (hx : x ∈ keys) :
    rank before x keys < keys.length := by
  refine lt_of_le_of_ne List.countP_le_length fun h => ?_
  have hself := List.countP_eq_length.mp h x hx
  exact Std.Irrefl.irrefl x (of_decide_eq_true hself)

/-- In a list in order a key is where its rank says. -/
theorem getElem?_iff_rank [Std.Asymm before] : ∀ {keys : List κ}, keys.Pairwise before → x ∈ keys →
    ∀ i, keys[i]? = some x ↔ i = rank before x keys
  | y :: keys, hsorted, hx, i => by
      obtain ⟨hfirst, hrest⟩ := List.pairwise_cons.mp hsorted
      rcases List.mem_cons.mp hx with rfl | hin
      · have hnone : rank before x (x :: keys) = 0 := by
          refine List.countP_eq_zero.mpr fun z hz hbefore => ?_
          have hzx : before z x := of_decide_eq_true hbefore
          rcases List.mem_cons.mp hz with rfl | hz
          · exact Std.Asymm.asymm z z hzx hzx
          · exact Std.Asymm.asymm x z (hfirst z hz) hzx
        rw [hnone]
        cases i with
        | zero => exact iff_of_true rfl rfl
        | succ i =>
            refine iff_of_false (fun h => ?_) (Nat.succ_ne_zero i)
            have hmem := List.mem_of_getElem? (l := keys) (i := i) h
            exact Std.Asymm.asymm x x (hfirst x hmem) (hfirst x hmem)
      · have hyx := hfirst x hin
        have hsucc : rank before x (y :: keys) = rank before x keys + 1 :=
          List.countP_cons_of_pos (decide_eq_true hyx)
        rw [hsucc]
        cases i with
        | zero =>
            refine iff_of_false (fun h => ?_) (Nat.succ_ne_zero _).symm
            cases h
            exact Std.Asymm.asymm x x hyx hyx
        | succ i =>
            rw [List.getElem?_cons_succ, getElem?_iff_rank hrest hin i, Nat.succ_inj]

theorem mem_page_iff [Std.Asymm before] (hsorted : keys.Pairwise before) (hx : x ∈ keys)
    (size n : Nat) :
    x ∈ page size n keys ↔
      n * size ≤ rank before x keys ∧ rank before x keys < (n + 1) * size := by
  have hget : ∀ j, (page size n keys)[j]? = some x ↔ j < size ∧ n * size + j = rank before x keys := by
    intro j
    unfold page
    rw [List.getElem?_take]
    split
    · rename_i hj
      rw [List.getElem?_drop, getElem?_iff_rank hsorted hx]
      exact (and_iff_right hj).symm
    · rename_i hj
      exact iff_of_false (fun h => by cases h) fun h => hj h.1
  rw [List.mem_iff_getElem?, Nat.succ_mul]
  constructor
  · rintro ⟨j, hj⟩
    obtain ⟨hlt, heq⟩ := (hget j).mp hj
    omega
  · rintro ⟨hle, hlt⟩
    exact ⟨rank before x keys - n * size, (hget _).mpr (by omega)⟩

/-- Where none of those before `x` is missing, `x` is no further to the front. -/
theorem rank_le (hnodup : keys.Nodup) (h : ∀ y ∈ keys, before y x → y ∈ keys') :
    rank before x keys ≤ rank before x keys' := by
  unfold rank
  rw [List.countP_eq_length_filter, List.countP_eq_length_filter]
  refine ((hnodup.filter _).subperm fun y hy => ?_).length_le
  obtain ⟨hmem, hbefore⟩ := List.mem_filter.mp hy
  exact List.mem_filter.mpr ⟨h y hmem (of_decide_eq_true hbefore), hbefore⟩

/-! ## Reading while the list changes -/

variable [Std.Asymm before] {size : Nat} {listing : Nat → List κ}

omit [DecidableRel before] in
theorem nodup_of_sorted (hsorted : keys.Pairwise before) : keys.Nodup := by
  refine hsorted.imp fun {a b} h => ?_
  rintro rfl
  exact Std.Asymm.asymm a a h h

/-- A key that is there at every read but on no page: one before it has left meanwhile. -/
theorem left_of_missed {n : Nat} (hsorted : ∀ i, (listing i).Pairwise before)
    (hx : ∀ i ≤ n, x ∈ listing i) (hlast : (listing n).length < (n + 1) * size)
    (hmissed : ∀ i ≤ n, x ∉ page size i (listing i)) :
    ∃ i < n, ∃ y, before y x ∧ y ∈ listing i ∧ y ∉ listing (i + 1) := by
  by_contra hnone
  have hstays : ∀ i < n, ∀ y ∈ listing i, before y x → y ∈ listing (i + 1) :=
    fun i hi y hy hyx => by_contra fun hgone => hnone ⟨i, hi, y, hyx, hy, hgone⟩
  -- the key keeps ahead of the reader
  have hahead : ∀ i ≤ n, (i + 1) * size ≤ rank before x (listing i) := by
    intro i
    induction i with
    | zero =>
        intro hi
        by_contra hlt
        refine hmissed 0 hi ((mem_page_iff (hsorted 0) (hx 0 hi) size 0).mpr ⟨?_, not_le.mp hlt⟩)
        rw [Nat.zero_mul]
        exact Nat.zero_le _
    | succ i ih =>
        intro hi
        have hbefore := ih (by omega)
        have hrank := rank_le (nodup_of_sorted (hsorted i)) (hstays i (by omega))
        by_contra hlt
        exact hmissed (i + 1) hi ((mem_page_iff (hsorted _) (hx _ hi) size (i + 1)).mpr
          ⟨hbefore.trans hrank, not_le.mp hlt⟩)
  have hirrefl : Std.Irrefl before := ⟨fun a h => Std.Asymm.asymm a a h h⟩
  have hlt : rank before x (listing n) < (listing n).length := rank_lt_length (hx n le_rfl)
  have hle := hahead n le_rfl
  omega

/-- A key that is on two pages: one before it has come in meanwhile. -/
theorem came_of_seen_twice {i j : Nat} (hij : i < j) (hsorted : ∀ k, (listing k).Pairwise before)
    (hx : ∀ k, i ≤ k → k ≤ j → x ∈ listing k)
    (hi : x ∈ page size i (listing i)) (hj : x ∈ page size j (listing j)) :
    ∃ k, i ≤ k ∧ k < j ∧ ∃ y, before y x ∧ y ∉ listing k ∧ y ∈ listing (k + 1) := by
  by_contra hnone
  have hold : ∀ k, i ≤ k → k < j → ∀ y ∈ listing (k + 1), before y x → y ∈ listing k :=
    fun k hik hkj y hy hyx => by_contra fun hnew => hnone ⟨k, hik, hkj, y, hyx, hnew, hy⟩
  have hback : ∀ d, i + d ≤ j → rank before x (listing (i + d)) ≤ rank before x (listing i) := by
    intro d
    induction d with
    | zero => exact fun _ => le_rfl
    | succ d ih =>
        intro hd
        have hstep := rank_le (nodup_of_sorted (hsorted (i + d + 1)))
          (hold (i + d) (by omega) (by omega))
        exact hstep.trans (ih (by omega))
  have hlow := ((mem_page_iff (hsorted i) (hx i le_rfl hij.le) size i).mp hi).2
  have hhigh := ((mem_page_iff (hsorted j) (hx j hij.le le_rfl) size j).mp hj).1
  have hrank := hback (j - i) (by omega)
  rw [show i + (j - i) = j by omega] at hrank
  have hpages : (i + 1) * size ≤ j * size := Nat.mul_le_mul_right size hij
  omega

end Rank

end Paging
