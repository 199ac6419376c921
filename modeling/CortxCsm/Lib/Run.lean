/-
# `CortxCsm.Lib.Run` — a machine called again and again

A machine is a function `step` from a state and a call to the next state; a run is a list of
calls.  `visits` lists each call with the state it finds, so a condition on the steps of a
run is a condition on its visits.

**Proved here.**

    what every step keeps, a run keeps                        (`invariant_run`)
    an invariant that a step keeps exactly under a condition
    holds throughout exactly when every visit meets it        (`invariant_iff`)
    a flag that visits set and clear is as the last of them
    has left it                                               (`flag_run_iff`)
-/
import Mathlib.Data.List.Infix

namespace Run

variable {σ κ : Type} (step : σ → κ → σ)

def run (s : σ) (calls : List κ) : σ := calls.foldl step s

/-- A state of the run: the one after some of the calls. -/
def Reached (s : σ) (calls : List κ) (t : σ) : Prop := ∃ pre, pre <+: calls ∧ run step s pre = t

/-- Each call, with the state it finds. -/
def visits : σ → List κ → List (σ × κ)
  | _, [] => []
  | s, c :: calls => (s, c) :: visits (step s c) calls

variable {step} {s t : σ} {c : κ} {calls : List κ}

theorem reached_nil : Reached step s [] t ↔ t = s := by
  constructor
  · rintro ⟨pre, hpre, rfl⟩
    rw [List.prefix_nil.mp hpre]
    rfl
  · rintro rfl
    exact ⟨[], List.prefix_rfl, rfl⟩

theorem reached_cons : Reached step s (c :: calls) t ↔ t = s ∨ Reached step (step s c) calls t := by
  constructor
  · rintro ⟨pre, hpre, rfl⟩
    rcases List.prefix_cons_iff.mp hpre with rfl | ⟨rest, rfl, hrest⟩
    · exact .inl rfl
    · exact .inr ⟨rest, hrest, rfl⟩
  · rintro (rfl | ⟨pre, hpre, rfl⟩)
    · exact ⟨[], List.nil_prefix, rfl⟩
    · exact ⟨c :: pre, List.cons_prefix_cons.mpr ⟨rfl, hpre⟩, rfl⟩

theorem reached_start : ∀ {calls : List κ}, Reached step s calls s
  | [] => reached_nil.mpr rfl
  | _ :: _ => reached_cons.mpr (.inl rfl)

@[simp] theorem run_nil (s : σ) : run step s [] = s := rfl

@[simp] theorem run_cons (s : σ) (c : κ) (calls : List κ) :
    run step s (c :: calls) = run step (step s c) calls := rfl

theorem run_append (s : σ) (calls calls' : List κ) :
    run step s (calls ++ calls') = run step (run step s calls) calls' := List.foldl_append

/-- The calls given in another form. -/
theorem run_map {ι : Type} (f : ι → κ) (s : σ) (is : List ι) :
    run step s (is.map f) = run (fun s i => step s (f i)) s is := List.foldl_map

theorem mem_visits_map {ι : Type} {f : ι → κ} {v : σ × κ} : ∀ {is : List ι} {s : σ},
    v ∈ visits step s (is.map f) ↔
      ∃ w ∈ visits (fun s i => step s (f i)) s is, (w.1, f w.2) = v
  | [], s => by simp [visits]
  | i :: is, s => by
      rw [List.map_cons, visits, visits, List.mem_cons, mem_visits_map]
      constructor
      · rintro (rfl | ⟨w, hw, rfl⟩)
        · exact ⟨(s, i), List.mem_cons_self, rfl⟩
        · exact ⟨w, List.mem_cons_of_mem _ hw, rfl⟩
      · rintro ⟨w, hw, rfl⟩
        rcases List.mem_cons.mp hw with rfl | hrest
        · exact .inl rfl
        · exact .inr ⟨w, hrest, rfl⟩

theorem visits_append : ∀ (calls calls' : List κ) (s : σ),
    visits step s (calls ++ calls') = visits step s calls ++ visits step (run step s calls) calls'
  | [], _, _ => rfl
  | c :: calls, calls', s => congrArg _ (visits_append calls calls' (step s c))

theorem mem_of_mem_visits {v : σ × κ} : ∀ {calls : List κ} {s : σ},
    v ∈ visits step s calls → v.2 ∈ calls
  | _ :: _, _, h => by
      rcases List.mem_cons.mp h with rfl | h
      · exact List.mem_cons_self
      · exact List.mem_cons_of_mem _ (mem_of_mem_visits h)

/-- What every step keeps, a run keeps. -/
theorem invariant_run {Inv : σ → Prop} {P : κ → Prop}
    (hstep : ∀ s c, P c → Inv s → Inv (step s c)) {calls : List κ} (hcalls : ∀ c ∈ calls, P c) :
    ∀ {s : σ}, Inv s → Inv (run step s calls) := by
  induction calls with
  | nil =>
      intro s hs
      exact hs
  | cons c calls ih =>
      intro s hs
      have hc := hcalls c List.mem_cons_self
      exact ih (fun c' hc' => hcalls c' (List.mem_cons_of_mem c hc')) (hstep s c hc hs)

/-- If a step keeps the invariant exactly where it meets `Q`, a run does. -/
theorem invariant_iff (Inv : σ → Prop) {P : κ → Prop} {Q : σ → κ → Prop}
    (hstep : ∀ s c, P c → Inv s → (Inv (step s c) ↔ Q s c)) :
    ∀ {calls : List κ} {s : σ}, (∀ c ∈ calls, P c) → Inv s →
      ((∀ t, Reached step s calls t → Inv t) ↔ ∀ v ∈ visits step s calls, Q v.1 v.2)
  | [], s, _, hs => by
      refine iff_of_true (fun t ht => ?_) fun v hv => absurd hv List.not_mem_nil
      rw [reached_nil.mp ht]
      exact hs
  | c :: calls, s, hcalls, hs => by
      have hfirst := hstep s c (hcalls c List.mem_cons_self) hs
      have hrest := fun c' hc' => hcalls c' (List.mem_cons_of_mem c hc')
      rw [visits, List.forall_mem_cons]
      constructor
      · intro h
        have hnext := h _ (reached_cons.mpr (.inr reached_start))
        refine ⟨hfirst.mp hnext, (invariant_iff Inv hstep hrest hnext).mp fun t ht => ?_⟩
        exact h t (reached_cons.mpr (.inr ht))
      · rintro ⟨hq, hqs⟩ t ht
        have hnext := hfirst.mpr hq
        rcases reached_cons.mp ht with rfl | ht
        · exact hs
        · exact (invariant_iff Inv hstep hrest hnext).mpr hqs t ht

/-- A flag that some steps set and others clear is set where it was to begin with and none has
cleared it, or where one has set it and none after that has cleared it. -/
theorem flag_run_iff {flag : σ → Bool} {On Off : σ → κ → Prop}
    (hon : ∀ s c, On s c → flag (step s c) = true)
    (hoff : ∀ s c, Off s c → flag (step s c) = false)
    (hkeep : ∀ s c, ¬ On s c → ¬ Off s c → flag (step s c) = flag s) :
    ∀ {calls : List κ} {s : σ}, flag (run step s calls) = true ↔
      (flag s = true ∧ ∀ v ∈ visits step s calls, ¬ Off v.1 v.2) ∨
        ∃ before v after, visits step s calls = before ++ v :: after ∧ On v.1 v.2 ∧
          ∀ w ∈ after, ¬ Off w.1 w.2
  | [], s => by
      constructor
      · exact fun h => .inl ⟨h, fun v hv => absurd hv List.not_mem_nil⟩
      · rintro (⟨h, -⟩ | ⟨before, v, after, hvisits, -⟩)
        · exact h
        · exact absurd hvisits.symm (List.append_ne_nil_of_right_ne_nil _ (List.cons_ne_nil _ _))
  | c :: calls, s => by
      have hset : flag (step s c) = true ↔ On s c ∨ flag s = true ∧ ¬ Off s c := by
        constructor
        · intro h
          by_cases hc : On s c
          · exact .inl hc
          · have hnot : ¬ Off s c := fun ho => Bool.noConfusion (h.symm.trans (hoff s c ho))
            exact .inr ⟨(hkeep s c hc hnot).symm.trans h, hnot⟩
        · rintro (hc | ⟨h, hnot⟩)
          · exact hon s c hc
          · by_cases hc : On s c
            · exact hon s c hc
            · exact (hkeep s c hc hnot).trans h
      rw [run_cons, flag_run_iff hon hoff hkeep, hset, visits]
      constructor
      · rintro (⟨hc | ⟨h, hnot⟩, hrest⟩ | ⟨before, v, after, hvisits, hv, hafter⟩)
        · exact .inr ⟨[], (s, c), _, rfl, hc, hrest⟩
        · exact .inl ⟨h, List.forall_mem_cons.mpr ⟨hnot, hrest⟩⟩
        · exact .inr ⟨(s, c) :: before, v, after, congrArg _ hvisits, hv, hafter⟩
      · rintro (⟨h, hall⟩ | ⟨before, v, after, hvisits, hv, hafter⟩)
        · obtain ⟨hnot, hrest⟩ := List.forall_mem_cons.mp hall
          exact .inl ⟨.inr ⟨h, hnot⟩, hrest⟩
        · cases before with
          | nil =>
              obtain ⟨rfl, rfl⟩ := List.cons.inj hvisits
              exact .inl ⟨.inl hv, hafter⟩
          | cons u before =>
              obtain ⟨-, hrest⟩ := List.cons.inj hvisits
              exact .inr ⟨before, v, after, hrest, hv, hafter⟩

end Run
