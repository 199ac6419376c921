/-
# `CortxCsm.Lib.Words` — a text cut at some of its words

Two ways of taking a text apart that is written with words between its segments, as in
`a=1 AND b=2 OR c=3`: `splitWords` cuts at a blank, one of the given words and a blank (as
`re.split(' AND | OR ')` does, from the left, without overlaps), and filtering
`s.splitOn ' '` keeps the words themselves.

    if no word of a segment is one of these words,
      `splitWords` gives the segments      (`splitWords_sentence`)
      the filter gives the words between   (`filter_words_sentence`)
-/
import Mathlib.Data.List.Basic

namespace Words

/-- The segments, after a cut whose last `skip` characters have not been passed yet. -/
def splitWords (ws : List (List Char)) : Nat → List Char → List (List Char)
  | _, [] => [[]]
  | skip + 1, _ :: s => splitWords ws skip s
  | 0, c :: s =>
      match ws.find? fun w => (' ' :: w ++ [' ']).isPrefixOf (c :: s) with
      | some w => [] :: splitWords ws (w.length + 1) s
      | none => (splitWords ws 0 s).modifyHead (c :: ·)

/-- A segment, and each word with the segment after it. -/
def sentence (first : List Char) (rest : List (List Char × List Char)) : List Char :=
  first ++ rest.flatMap fun (w, segment) => ' ' :: w ++ ' ' :: segment

theorem sentence_cons (first w segment : List Char) (rest : List (List Char × List Char)) :
    sentence first ((w, segment) :: rest) = first ++ ' ' :: (w ++ ' ' :: sentence segment rest) := by
  simp [sentence]

section Sentence

variable {ws : List (List Char)}

theorem splitWords_skip : ∀ (skip : Nat) (s : List Char),
    splitWords ws skip s = splitWords ws 0 (s.drop skip)
  | 0, _ => rfl
  | _ + 1, [] => rfl
  | skip + 1, _ :: s => by
      rw [splitWords, splitWords_skip skip s, List.drop_succ_cons]

/-- A word that ends at a blank is the first word. -/
theorem first_word {w s rest : List Char} (hw : ' ' ∉ w) (hrest : rest = [] ∨ rest.head? = some ' ')
    (h : w ++ [' '] <+: s ++ rest) : w ∈ s.splitOn ' ' := by
  obtain ⟨t, ht⟩ := h
  rw [List.append_assoc, List.singleton_append] at ht
  rcases List.append_eq_append_iff.mp ht with ⟨a, rfl, ha⟩ | ⟨a, rfl, ha⟩
  · cases a with
    | nil =>
        rw [List.append_nil, List.splitOn_eq_singleton hw]
        exact List.mem_singleton_self w
    | cons c a =>
        have hc : c = ' ' := (List.cons.inj ha).1.symm
        subst hc
        rw [List.splitOn_append_cons_self, List.splitOn_eq_singleton hw]
        exact List.mem_cons_self
  · cases a with
    | nil =>
        rw [List.append_nil] at hw ⊢
        rw [List.splitOn_eq_singleton hw]
        exact List.mem_singleton_self s
    | cons c a =>
        rcases hrest with rfl | hhead
        · cases ha
        · rw [ha] at hhead
          have hc : c = ' ' := Option.some.inj hhead
          subst hc
          exact absurd (List.mem_append_right s List.mem_cons_self) hw

/-- A character that no cut begins with. -/
theorem splitWords_cons {c : Char} {s : List Char}
    (h : ∀ w ∈ ws, ¬ ' ' :: w ++ [' '] <+: c :: s) :
    splitWords ws 0 (c :: s) = (splitWords ws 0 s).modifyHead (c :: ·) := by
  have hnone : (ws.find? fun w => (' ' :: w ++ [' ']).isPrefixOf (c :: s)) = none := by
    rw [List.find?_eq_none]
    intro w hw hmatch
    exact h w hw (List.isPrefixOf_iff_prefix.mp hmatch)
  rw [splitWords, hnone]

/-- There is no cut in a segment. -/
theorem splitWords_segment (hws : ∀ w ∈ ws, ' ' ∉ w) {rest : List Char}
    (hrest : rest = [] ∨ rest.head? = some ' ') :
    ∀ {segment : List Char}, (∀ w ∈ (segment.splitOn ' ').tail, w ∉ ws) →
      splitWords ws 0 (segment ++ rest) = (splitWords ws 0 rest).modifyHead (segment ++ ·)
  | [], _ => by
      rw [List.nil_append]
      cases splitWords ws 0 rest with
      | nil => rfl
      | cons head tail => rfl
  | c :: segment, h => by
      have htail : (∀ w ∈ (segment.splitOn ' ').tail, w ∉ ws) ∧
          ∀ w ∈ ws, ¬ ' ' :: w ++ [' '] <+: c :: (segment ++ rest) := by
        rw [List.splitOn_cons_eq_if_modifyHead] at h
        split at h
        · rename_i hc
          rw [List.tail_cons] at h
          constructor
          · exact fun w hw => h w (List.mem_of_mem_tail hw)
          · intro w hw hmatch
            have hword := (List.cons_prefix_cons.mp hmatch).2
            exact h w (first_word (hws w hw) hrest hword) hw
        · rename_i hc
          rw [List.tail_modifyHead] at h
          refine ⟨h, fun w _ hmatch => hc ?_⟩
          rw [beq_iff_eq]
          exact (List.cons_prefix_cons.mp hmatch).1.symm
      rw [List.cons_append, splitWords_cons htail.2, splitWords_segment hws hrest htail.1]
      cases splitWords ws 0 rest with
      | nil => rfl
      | cons head tail => rfl

/-- A word between blanks is a cut. -/
theorem splitWords_word (hws : ∀ w ∈ ws, ' ' ∉ w) {w : List Char} (hw : w ∈ ws) (s : List Char) :
    splitWords ws 0 (' ' :: (w ++ ' ' :: s)) = [] :: splitWords ws 0 s := by
  have hfind : (ws.find? fun v => (' ' :: v ++ [' ']).isPrefixOf (' ' :: (w ++ ' ' :: s))) =
      some w := by
    cases hfound : ws.find? fun v => (' ' :: v ++ [' ']).isPrefixOf (' ' :: (w ++ ' ' :: s)) with
    | none =>
        have hmatch : ' ' :: w ++ [' '] <+: ' ' :: (w ++ ' ' :: s) := ⟨s, by simp⟩
        exact absurd (List.isPrefixOf_iff_prefix.mpr hmatch) (List.find?_eq_none.mp hfound w hw)
    | some v =>
        have hmatch : ' ' :: v ++ [' '] <+: ' ' :: (w ++ ' ' :: s) := by
          have hv := List.find?_some hfound
          exact List.isPrefixOf_iff_prefix.mp hv
        have hword : v ∈ w.splitOn ' ' :=
          first_word (hws v (List.mem_of_find?_eq_some hfound)) (.inr rfl)
            (List.cons_prefix_cons.mp hmatch).2
        rw [List.splitOn_eq_singleton (hws w hw)] at hword
        rw [List.mem_singleton.mp hword]
  rw [splitWords, hfind]
  dsimp only
  rw [splitWords_skip]
  simp

theorem splitWords_sentence (hws : ∀ w ∈ ws, ' ' ∉ w) :
    ∀ {first : List Char} {rest : List (List Char × List Char)}, (∀ r ∈ rest, r.1 ∈ ws) →
      (∀ segment ∈ first :: rest.map Prod.snd, ∀ w ∈ segment.splitOn ' ', w ∉ ws) →
      splitWords ws 0 (sentence first rest) = first :: rest.map Prod.snd
  | first, [], _, hsegments => by
      have htail : ∀ w ∈ (first.splitOn ' ').tail, w ∉ ws :=
        fun w hw => hsegments first List.mem_cons_self w (List.mem_of_mem_tail hw)
      have hsplit := splitWords_segment hws (.inl rfl) htail
      rw [sentence, List.flatMap_nil, hsplit]
      simp [splitWords]
  | first, (w, segment) :: rest, hrest, hsegments => by
      have htail : ∀ v ∈ (first.splitOn ' ').tail, v ∉ ws :=
        fun v hv => hsegments first List.mem_cons_self v (List.mem_of_mem_tail hv)
      have ih := splitWords_sentence hws (fun r hr => hrest r (List.mem_cons_of_mem _ hr))
        fun s hs => hsegments s (List.mem_cons_of_mem _ hs)
      rw [sentence_cons, splitWords_segment hws (.inr rfl) htail,
        splitWords_word hws (hrest _ List.mem_cons_self), ih]
      simp

theorem filter_words_sentence (hws : ∀ w ∈ ws, ' ' ∉ w) :
    ∀ {first : List Char} {rest : List (List Char × List Char)}, (∀ r ∈ rest, r.1 ∈ ws) →
      (∀ segment ∈ first :: rest.map Prod.snd, ∀ w ∈ segment.splitOn ' ', w ∉ ws) →
      ((sentence first rest).splitOn ' ').filter (· ∈ ws) = rest.map Prod.fst
  | first, [], _, hsegments => by
      rw [sentence, List.flatMap_nil, List.append_nil, List.map_nil, List.filter_eq_nil_iff]
      intro w hw
      simpa using hsegments first List.mem_cons_self w hw
  | first, (w, segment) :: rest, hrest, hsegments => by
      have hw : w ∈ ws := hrest _ List.mem_cons_self
      have hfirst : (first.splitOn ' ').filter (· ∈ ws) = [] := by
        rw [List.filter_eq_nil_iff]
        intro v hv
        simpa using hsegments first List.mem_cons_self v hv
      have ih := filter_words_sentence hws (fun r hr => hrest r (List.mem_cons_of_mem _ hr))
        fun s hs => hsegments s (List.mem_cons_of_mem _ hs)
      rw [sentence_cons, List.splitOn_append_cons_self, List.splitOn_append_cons_self,
        List.splitOn_eq_singleton (hws w hw), List.filter_append, List.filter_append, hfirst, ih]
      simp [hw]

end Sentence

end Words
