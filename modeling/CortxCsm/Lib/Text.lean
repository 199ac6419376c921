/-
# `CortxCsm.Lib.Text` — splitting a text at a character

`Text.split sep` is Python's `str.split(sep)` for a separator of one character: it never
returns an empty list, and a separator at an end, or two in a row, give empty parts.
`Text.join sep` undoes it.  `Text.strip` takes the characters of a class off both ends.
-/
import Mathlib.Data.List.Basic

namespace Text

def split (sep : Char) (s : String) : List String := (s.toList.splitOn sep).map String.ofList

def join (sep : Char) (parts : List String) : String :=
  String.ofList ([sep].intercalate (parts.map String.toList))

/-- `str.rsplit(sep, 1)`. -/
def rsplit (sep : Char) (s : String) : List String :=
  match split sep s with
  | first :: second :: rest =>
      [join sep (first :: second :: rest).dropLast,
        (first :: second :: rest).getLast (List.cons_ne_nil first (second :: rest))]
  | _ => [s]

/-- `str.strip` of the characters of a class. -/
def strip (p : Char → Bool) (s : String) : String :=
  String.ofList ((s.toList.dropWhile p).reverse.dropWhile p).reverse

theorem split_ne_nil (sep : Char) (s : String) : split sep s ≠ [] := by
  unfold split
  rw [Ne, List.map_eq_nil_iff]
  exact List.splitOn_ne_nil sep s.toList

theorem not_mem_of_mem_splitOn {α : Type} [BEq α] [LawfulBEq α] {sep : α} :
    ∀ {xs part : List α}, part ∈ xs.splitOn sep → sep ∉ part
  | [], part, h => by
      rw [List.splitOn_nil, List.mem_singleton] at h
      rw [h]
      exact List.not_mem_nil
  | x :: xs, part, h => by
      rw [List.splitOn_cons_eq_if_modifyHead] at h
      split at h
      · rcases List.mem_cons.mp h with rfl | h
        · exact List.not_mem_nil
        · exact not_mem_of_mem_splitOn h
      · rename_i hx
        cases hs : xs.splitOn sep with
        | nil => exact absurd hs (List.splitOn_ne_nil sep xs)
        | cons head rest =>
            rw [hs] at h
            rcases List.mem_cons.mp h with rfl | h
            · rw [List.mem_cons, not_or]
              refine ⟨fun e => hx (beq_iff_eq.mpr e.symm), ?_⟩
              have hpart : head ∈ xs.splitOn sep := hs ▸ List.mem_cons_self
              exact not_mem_of_mem_splitOn hpart
            · have hpart : part ∈ xs.splitOn sep := hs ▸ List.mem_cons_of_mem _ h
              exact not_mem_of_mem_splitOn hpart

/-- No part holds the separator. -/
theorem not_mem_of_mem_split {sep : Char} {s part : String} (h : part ∈ split sep s) :
    sep ∉ part.toList := by
  obtain ⟨chars, hc, rfl⟩ := List.mem_map.mp h
  rw [String.toList_ofList]
  exact not_mem_of_mem_splitOn hc

theorem join_split (sep : Char) (s : String) : join sep (split sep s) = s := by
  unfold join split
  rw [List.map_map]
  have : String.toList ∘ String.ofList = id := funext fun cs => String.toList_ofList
  rw [this, List.map_id, List.intercalate_splitOn, String.ofList_toList]

theorem split_join {sep : Char} {parts : List String} (hsep : ∀ p ∈ parts, sep ∉ p.toList)
    (hne : parts ≠ []) : split sep (join sep parts) = parts := by
  unfold join split
  rw [String.toList_ofList, List.splitOn_intercalate sep ?_ (by simpa using hne), List.map_map]
  · have : String.ofList ∘ String.toList = id := funext fun s => String.ofList_toList
    rw [this, List.map_id]
  · intro cs hcs
    obtain ⟨p, hp, rfl⟩ := List.mem_map.mp hcs
    exact hsep p hp

/-- The texts of two parts. -/
theorem split_eq_pair {sep : Char} {s a b : String} :
    split sep s = [a, b] ↔ s = join sep [a, b] ∧ sep ∉ a.toList ∧ sep ∉ b.toList := by
  constructor
  · intro h
    refine ⟨by rw [← h, join_split], ?_, ?_⟩
    · exact not_mem_of_mem_split (h ▸ List.mem_cons_self)
    · exact not_mem_of_mem_split (h ▸ List.mem_cons_of_mem _ List.mem_cons_self)
  · rintro ⟨rfl, ha, hb⟩
    exact split_join (by simp [ha, hb]) (by simp)

theorem splitOn_append {sep : Char} : ∀ {a : List Char} (b : List Char), sep ∉ a →
    (a ++ sep :: b).splitOn sep = a :: b.splitOn sep
  | [], b, _ => by
      rw [List.nil_append, List.splitOn_cons_eq_if_modifyHead, if_pos (beq_iff_eq.mpr rfl)]
  | c :: a, b, h => by
      rw [List.mem_cons, not_or] at h
      rw [List.cons_append, List.splitOn_cons_eq_if_modifyHead,
        if_neg fun he => h.1 (beq_iff_eq.mp he).symm, splitOn_append b h.2]
      rfl

/-- The part before the first separator comes first. -/
theorem split_append {sep : Char} {a : String} (b : String) (h : sep ∉ a.toList) :
    split sep (a ++ String.singleton sep ++ b) = a :: split sep b := by
  have hlist : (a ++ String.singleton sep ++ b).toList = a.toList ++ sep :: b.toList := by
    simp
  unfold split
  rw [hlist, splitOn_append b.toList h, List.map_cons, String.ofList_toList]

theorem join_pair (sep : Char) (a b : String) :
    join sep [a, b] = a ++ String.singleton sep ++ b := by
  apply String.toList_inj.mp
  simp [join, List.intercalate]

theorem join_singleton (sep : Char) (part : String) : join sep [part] = part := by
  unfold join
  rw [List.map_singleton, List.intercalate_singleton, String.ofList_toList]

theorem join_cons (sep : Char) (part : String) {rest : List String} (h : rest ≠ []) :
    join sep (part :: rest) = part ++ String.singleton sep ++ join sep rest := by
  have hmap : rest.map String.toList ≠ [] := fun hn => h (List.map_eq_nil_iff.mp hn)
  apply String.toList_inj.mp
  simp [join, List.intercalate_cons_of_ne_nil hmap]

/-- Two parts have a separator between them. -/
theorem sep_mem_join (sep : Char) (part next : String) (rest : List String) :
    sep ∈ (join sep (part :: next :: rest)).toList := by
  rw [join_cons sep part (List.cons_ne_nil next rest)]
  simp

theorem join_concat (sep : Char) (last : String) : ∀ {parts : List String}, parts ≠ [] →
    join sep (parts ++ [last]) = join sep parts ++ String.singleton sep ++ last
  | [part], _ => by rw [List.singleton_append, join_pair, join_singleton]
  | part :: next :: parts, _ => by
      have ih := join_concat sep last (List.cons_ne_nil next parts)
      have hne : next :: parts ++ [last] ≠ [] := List.cons_ne_nil next (parts ++ [last])
      rw [List.cons_append, join_cons sep part hne, ih,
        join_cons sep part (List.cons_ne_nil next parts)]
      simp only [String.append_assoc]

/-- The two parts of `rsplit`, or the one. -/
theorem rsplit_cases (sep : Char) (s : String) :
    (split sep s = [s] ∧ rsplit sep s = [s]) ∨
      ∃ init last, init ≠ [] ∧ split sep s = init ++ [last] ∧
        rsplit sep s = [join sep init, last] := by
  unfold rsplit
  have hjoin := join_split sep s
  cases h : split sep s with
  | nil => exact absurd h (split_ne_nil sep s)
  | cons first rest =>
      rw [h] at hjoin
      cases rest with
      | nil =>
          rw [join_singleton] at hjoin
          exact .inl ⟨by rw [hjoin], rfl⟩
      | cons second rest =>
          refine .inr ⟨(first :: second :: rest).dropLast, _, ?_,
            (List.dropLast_append_getLast (List.cons_ne_nil first (second :: rest))).symm, rfl⟩
          exact List.cons_ne_nil first (second :: rest).dropLast

/-! ## Taking characters off the ends -/

section Strip

variable {p : Char → Bool} {s : String}

theorem mem_of_mem_strip {c : Char} (h : c ∈ (strip p s).toList) : c ∈ s.toList := by
  rw [strip, String.toList_ofList, List.mem_reverse] at h
  have hrev := (List.dropWhile_sublist p).subset h
  rw [List.mem_reverse] at hrev
  exact (List.dropWhile_sublist p).subset hrev

/-- No character of the class is at an end. -/
def Trimmed (p : Char → Bool) (s : String) : Prop :=
  (∀ c, s.toList.head? = some c → p c = false) ∧ ∀ c, s.toList.getLast? = some c → p c = false

theorem dropWhile_of_head : ∀ {l : List Char}, (∀ c, l.head? = some c → p c = false) →
    l.dropWhile p = l
  | [], _ => rfl
  | c :: l, h => by
      rw [List.dropWhile_cons, h c rfl]
      rfl

theorem dropWhile_append_of_all {l r : List Char} (hl : ∀ c ∈ l, p c = true) :
    (l ++ r).dropWhile p = r.dropWhile p := by
  induction l with
  | nil => rfl
  | cons c l ih =>
      rw [List.cons_append, List.dropWhile_cons, hl c List.mem_cons_self, if_pos rfl]
      exact ih fun c hc => hl c (List.mem_cons_of_mem _ hc)

/-- What is put around a trimmed text is taken off again. -/
theorem strip_surrounded {l r : List Char} (hl : ∀ c ∈ l, p c = true) (hr : ∀ c ∈ r, p c = true)
    (hs : Trimmed p s) : strip p (String.ofList (l ++ s.toList ++ r)) = s := by
  obtain ⟨hhead, hlast⟩ := hs
  have hr' : ∀ c ∈ r.reverse, p c = true := fun c hc => hr c (List.mem_reverse.mp hc)
  have hback : (s.toList.reverse.dropWhile p).reverse = s.toList := by
    rw [dropWhile_of_head, List.reverse_reverse]
    intro c hc
    rw [List.head?_reverse] at hc
    exact hlast c hc
  rw [strip, String.toList_ofList, List.append_assoc, dropWhile_append_of_all hl]
  cases hchars : s.toList with
  | nil =>
      rw [List.nil_append, ← List.append_nil r, dropWhile_append_of_all hr]
      rw [← String.ofList_toList (s := s), hchars]
      rfl
  | cons c chars =>
      have hc : p c = false := hhead c (by rw [hchars]; rfl)
      rw [List.cons_append, List.dropWhile_cons, hc, if_neg Bool.false_ne_true, ← List.cons_append,
        ← hchars, List.reverse_append, dropWhile_append_of_all hr', hback, String.ofList_toList]

theorem strip_of_trimmed (hs : Trimmed p s) : strip p s = s := by
  have h := strip_surrounded (l := []) (r := []) (by simp) (by simp) hs
  rwa [List.nil_append, List.append_nil, String.ofList_toList] at h

theorem trimmed_of_forall (h : ∀ c ∈ s.toList, p c = false) : Trimmed p s :=
  ⟨fun c hc => h c (List.mem_of_head? hc), fun c hc => h c (List.mem_of_getLast? hc)⟩

end Strip

end Text
