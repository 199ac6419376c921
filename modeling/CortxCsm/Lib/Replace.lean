/-
# `CortxCsm.Lib.Replace` — texts cut at the occurrences of another

`pieces old s` is what is left of `s` between the occurrences of `old`, found from left to right
and without overlap; `replace` puts another text between the pieces.  No piece holds `old`.

`Glob.Matches` says which names a pattern stands for, where `*` stands for any text.
-/
import CortxCsm.Lib.Text
import Mathlib.Data.List.Infix

namespace Text

/-- The pieces of a text, of which the first `skip` characters are passed over. -/
def pieces (old : List Char) : (skip : Nat) → List Char → List (List Char)
  | _, [] => [[]]
  | skip + 1, _ :: s => pieces old skip s
  | 0, c :: s =>
      if old.isPrefixOf (c :: s) then [] :: pieces old (old.length - 1) s
      else (pieces old 0 s).modifyHead (c :: ·)

/-- `s.replace(old, new)`; an empty text is found around every character. -/
def replace (old new s : String) : String :=
  if old = "" then
    String.ofList (new.toList ++ s.toList.flatMap fun c => c :: new.toList)
  else String.ofList (new.toList.intercalate (pieces old.toList 0 s.toList))

section Pieces

variable {old : List Char}

theorem pieces_ne_nil : ∀ (skip : Nat) (s : List Char), pieces old skip s ≠ []
  | _, [] => List.cons_ne_nil _ _
  | skip + 1, _ :: s => pieces_ne_nil skip s
  | 0, c :: s => by
      rw [pieces]
      split
      · exact List.cons_ne_nil _ _
      · cases h : pieces old 0 s with
        | nil => exact absurd h (pieces_ne_nil 0 s)
        | cons piece rest => exact List.cons_ne_nil _ _

theorem pieces_skip : ∀ (skip : Nat) (s : List Char), pieces old skip s = pieces old 0 (s.drop skip)
  | 0, s => rfl
  | skip + 1, [] => rfl
  | skip + 1, _ :: s => by
      rw [pieces, pieces_skip skip s]
      rfl

/-- An occurrence at the beginning is a cut. -/
theorem pieces_append (hold : old ≠ []) (s : List Char) :
    pieces old 0 (old ++ s) = [] :: pieces old 0 s := by
  cases old with
  | nil => exact absurd rfl hold
  | cons c old =>
      have hprefix : (c :: old).isPrefixOf (c :: old ++ s) = true :=
        List.isPrefixOf_iff_prefix.mpr (List.prefix_append _ _)
      rw [List.cons_append] at hprefix ⊢
      rw [pieces, if_pos hprefix, pieces_skip]
      simp

/-- A character that no occurrence begins with belongs to the first piece. -/
theorem pieces_cons {c : Char} {s : List Char} (h : ¬ old <+: c :: s) :
    pieces old 0 (c :: s) = (pieces old 0 s).modifyHead (c :: ·) := by
  rw [pieces, if_neg fun hprefix => h (List.isPrefixOf_iff_prefix.mp hprefix)]

theorem intercalate_nil_cons {sep : List Char} {parts : List (List Char)} (h : parts ≠ []) :
    sep.intercalate ([] :: parts) = sep ++ sep.intercalate parts := by
  rw [List.intercalate_cons_of_ne_nil h]
  rfl

theorem intercalate_modifyHead {sep : List Char} {parts : List (List Char)} (h : parts ≠ [])
    (c : Char) : sep.intercalate (parts.modifyHead (c :: ·)) = c :: sep.intercalate parts := by
  cases parts with
  | nil => exact absurd rfl h
  | cons part parts =>
      rw [List.modifyHead_cons]
      cases parts with
      | nil => rw [List.intercalate_singleton, List.intercalate_singleton]
      | cons next parts =>
          rw [List.intercalate_cons_of_ne_nil (List.cons_ne_nil next parts),
            List.intercalate_cons_of_ne_nil (List.cons_ne_nil next parts)]
          rfl

theorem begins_intercalate (sep first : List Char) (rest : List (List Char)) :
    first <+: sep.intercalate (first :: rest) := by
  cases rest with
  | nil =>
      rw [List.intercalate_singleton]
  | cons next rest =>
      rw [List.intercalate_cons_of_ne_nil (List.cons_ne_nil next rest), List.append_assoc]
      exact List.prefix_append _ _

/-- A text, cut from the left: an occurrence at its beginning, or a character that none begins
with. -/
theorem pieces_induction (hold : old ≠ []) {P : List Char → Prop} (nil : P [])
    (found : ∀ s, P s → P (old ++ s)) (other : ∀ c s, ¬ old <+: c :: s → P s → P (c :: s)) :
    ∀ s, P s := by
  intro s
  induction hn : s.length using Nat.strongRecOn generalizing s with
  | ind n ih =>
      by_cases hprefix : old <+: s
      · obtain ⟨rest, rfl⟩ := hprefix
        have hpos := List.length_pos_of_ne_nil hold
        rw [List.length_append] at hn
        exact found rest (ih rest.length (by omega) rest rfl)
      · cases s with
        | nil => exact nil
        | cons c s =>
            rw [List.length_cons] at hn
            exact other c s hprefix (ih s.length (by omega) s rfl)

/-- With the text that was cut at between them, the pieces are the text; none of them holds
it. -/
theorem pieces_spec (hold : old ≠ []) (s : List Char) :
    old.intercalate (pieces old 0 s) = s ∧ ∀ piece ∈ pieces old 0 s, ¬ old <:+: piece := by
  induction s using pieces_induction hold with
  | nil =>
      refine ⟨rfl, ?_⟩
      intro piece hpiece
      rw [List.mem_singleton.mp hpiece]
      exact fun hinfix => hold (List.eq_nil_of_infix_nil hinfix)
  | found rest ih =>
      obtain ⟨hjoin, hpieces⟩ := ih
      rw [pieces_append hold, intercalate_nil_cons (pieces_ne_nil 0 rest), hjoin]
      refine ⟨rfl, ?_⟩
      intro piece hpiece
      rcases List.mem_cons.mp hpiece with rfl | hpiece
      · intro hinfix
        exact hold (List.eq_nil_of_infix_nil hinfix)
      · exact hpieces piece hpiece
  | other c s hprefix ih =>
      obtain ⟨hjoin, hpieces⟩ := ih
      rw [pieces_cons hprefix, intercalate_modifyHead (pieces_ne_nil 0 s), hjoin]
      refine ⟨rfl, ?_⟩
      cases hs : pieces old 0 s with
      | nil => exact absurd hs (pieces_ne_nil 0 s)
      | cons first rest =>
          rw [hs] at hjoin hpieces
          have hfirst : first <+: s := by
            rw [← hjoin]
            exact begins_intercalate old first rest
          intro piece hpiece
          rcases List.mem_cons.mp hpiece with rfl | hpiece
          · -- An occurrence in the longer piece would begin with its first character.
            intro hinfix
            rcases List.infix_cons_iff.mp hinfix with hbegin | hinfix
            · exact hprefix (hbegin.trans (List.cons_prefix_cons.mpr ⟨rfl, hfirst⟩))
            · exact hpieces first List.mem_cons_self hinfix
          · exact hpieces piece (List.mem_cons_of_mem first hpiece)

theorem intercalate_pieces (hold : old ≠ []) (s : List Char) :
    old.intercalate (pieces old 0 s) = s := (pieces_spec hold s).1

/-- No piece holds the text that was cut at. -/
theorem not_infix_piece (hold : old ≠ []) {s piece : List Char} (h : piece ∈ pieces old 0 s) :
    ¬ old <:+: piece := (pieces_spec hold s).2 piece h

/-- A text without an occurrence is one piece. -/
theorem pieces_of_not_infix : ∀ {s : List Char}, ¬ old <:+: s → pieces old 0 s = [s]
  | [], _ => rfl
  | c :: s, h => by
      have hs : ¬ old <:+: s := fun hinfix => h (List.infix_cons_iff.mpr (.inr hinfix))
      have hprefix : ¬ old <+: c :: s := fun hprefix => h hprefix.isInfix
      rw [pieces_cons hprefix, pieces_of_not_infix hs]
      rfl

end Pieces

section Between

variable {old new : List Char}

/-- What `replace` does with the characters. -/
def replaceChars (old new s : List Char) : List Char := new.intercalate (pieces old 0 s)

theorem replaceChars_append (hold : old ≠ []) (s : List Char) :
    replaceChars old new (old ++ s) = new ++ replaceChars old new s := by
  rw [replaceChars, pieces_append hold, intercalate_nil_cons (pieces_ne_nil 0 s), replaceChars]

theorem replaceChars_cons {c : Char} {s : List Char} (h : ¬ old <+: c :: s) :
    replaceChars old new (c :: s) = c :: replaceChars old new s := by
  rw [replaceChars, pieces_cons h, intercalate_modifyHead (pieces_ne_nil 0 s), replaceChars]

theorem replaceChars_of_not_infix {s : List Char} (h : ¬ old <:+: s) :
    replaceChars old new s = s := by
  rw [replaceChars, pieces_of_not_infix h, List.intercalate_singleton]

/-- What no occurrence begins in stays in front. -/
theorem replaceChars_before : ∀ {before : List Char} (s : List Char),
    (∀ c ∈ before, ∀ rest, ¬ old <+: c :: rest) →
      replaceChars old new (before ++ s) = before ++ replaceChars old new s
  | [], _, _ => rfl
  | c :: before, s, h => by
      rw [List.cons_append, replaceChars_cons (h c List.mem_cons_self _),
        replaceChars_before s fun d hd => h d (List.mem_cons_of_mem c hd), List.cons_append]

/-- What no occurrence reaches into or begins in stays behind. -/
theorem replaceChars_after (hold : old ≠ []) {c : Char} {after : List Char} (hc : c ∉ old)
    (hafter : ¬ old <:+: c :: after) (s : List Char) :
    replaceChars old new (s ++ c :: after) = replaceChars old new s ++ c :: after := by
  have hreach : ∀ {s : List Char}, old <+: s ++ c :: after → old <+: s := by
    rintro s ⟨rest, hrest⟩
    rcases List.append_eq_append_iff.mp hrest with ⟨a, rfl, -⟩ | ⟨a, rfl, ha⟩
    · exact List.prefix_append _ _
    · cases a with
      | nil => rw [List.append_nil]
      | cons d a =>
          have hd : c = d := (List.cons.inj ha).1
          subst hd
          exact absurd (List.mem_append_right s List.mem_cons_self) hc
  induction s using pieces_induction hold with
  | nil => exact replaceChars_of_not_infix hafter
  | found s ih =>
      rw [List.append_assoc, replaceChars_append hold, ih, replaceChars_append hold,
        List.append_assoc]
  | other d s hprefix ih =>
      have hlonger : ¬ old <+: d :: (s ++ c :: after) := fun h => hprefix (hreach h)
      rw [replaceChars_cons hprefix, List.cons_append, replaceChars_cons hlonger, ih,
        List.cons_append]

/-- A character that is neither in the one text nor in the other stays. -/
theorem mem_replaceChars (hold : old ≠ []) {c : Char} (hc : c ∉ old) (hc' : c ∉ new)
    (s : List Char) : c ∈ replaceChars old new s ↔ c ∈ s := by
  induction s using pieces_induction hold with
  | nil =>
      have hnil : replaceChars old new [] = [] := rfl
      rw [hnil]
  | found s ih =>
      rw [replaceChars_append hold, List.mem_append, List.mem_append, ih, or_iff_right hc,
        or_iff_right hc']
  | other d s hprefix ih =>
      rw [replaceChars_cons hprefix, List.mem_cons, List.mem_cons, ih]

end Between

section Replace

variable {old new s : String}

theorem toList_replace (hold : old ≠ "") :
    (replace old new s).toList = replaceChars old.toList new.toList s.toList := by
  unfold replace
  rw [if_neg hold, String.toList_ofList, replaceChars]

/-- Nothing is replaced where there is no occurrence. -/
theorem replace_of_not_infix (hold : old ≠ "") (h : ¬ old.toList <:+: s.toList) :
    replace old new s = s := by
  apply String.toList_inj.mp
  rw [toList_replace hold, replaceChars_of_not_infix h]

theorem replace_empty (s : String) : replace "" "" s = s := by
  apply String.toList_inj.mp
  unfold replace
  rw [if_pos rfl, String.toList_ofList]
  simp

/-- The one occurrence is replaced. -/
theorem replace_once {before after : List Char} (hold : old ≠ "")
    (hs : s.toList = before ++ old.toList ++ after) (hbefore : ∀ rest, ∀ c ∈ before,
      ¬ old.toList <+: c :: rest) (hafter : ¬ old.toList <:+: after) :
    (replace old new s).toList = before ++ new.toList ++ after := by
  have hold' : old.toList ≠ [] := fun h => hold (String.toList_inj.mp h)
  rw [toList_replace hold, hs, List.append_assoc]
  rw [replaceChars_before _ fun c hc rest => hbefore rest c hc, replaceChars_append hold',
    replaceChars_of_not_infix hafter, List.append_assoc]

end Replace

end Text

namespace Glob

/-- The names that a pattern stands for. -/
inductive Matches : (pattern name : List Char) → Prop
  | nil : Matches [] []
  | char {c : Char} {pattern name : List Char} : Matches pattern name →
      Matches (c :: pattern) (c :: name)
  /-- `*` stands for no more characters, -/
  | none {pattern name : List Char} : Matches pattern name → Matches ('*' :: pattern) name
  /-- or for one and more. -/
  | more {c : Char} {pattern name : List Char} : Matches ('*' :: pattern) name →
      Matches ('*' :: pattern) (c :: name)

/-- A pattern stands for itself. -/
theorem Matches.refl : ∀ name : List Char, Matches name name
  | [] => .nil
  | _ :: name => .char (.refl name)

theorem matches_star : ∀ name : List Char, Matches ['*'] name
  | [] => .none .nil
  | _ :: name => .more (matches_star name)

/-- What begins as the pattern does up to its star. -/
theorem matches_begins (rest : List Char) : ∀ pattern : List Char,
    Matches (pattern ++ ['*']) (pattern ++ rest)
  | [] => matches_star rest
  | _ :: pattern => .char (matches_begins rest pattern)

end Glob
