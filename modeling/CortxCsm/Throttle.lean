/-
# `CortxCsm.Throttle` — `CsmRestApi.throttler_middleware`

One counter, raised when a request is admitted and lowered in the `finally` of its
handler.  A handler is one await that ends in a response or in an exception, of
which a cancellation is one; how the next handler ends is up to the environment.
The rest of the application does not name the three attributes, so the state is
these and nothing else.

What is proved, over any interleaving: the counter is the number of requests in
flight, and a request is turned away exactly when the quota is used up as it
arrives (`throttling_exact`).
-/
import CortxCsm.Lib.InFlight

namespace CortxCsm

/-- The attributes of `CsmRestApi`; `ending` is how a handler that ends now ends. -/
structure ApiState (E R : Type) where
  __nreq : Int
  __nblocked : Int
  __request_quota : Int
  ending : Except E R

/-- The await of the middleware. -/
inductive ApiOp
  | handler

/-- The response of the handler, or the middleware's own with status 429. -/
inductive Throttled (R : Type)
  | tooManyRequests
  | response (res : R)

section

variable {E R : Type}

/-- `CsmRestApi.init`. -/
def ApiState.init (quota : Int) (ending : Except E R) : ApiState E R := ⟨0, 0, quota, ending⟩

def ApiOp.Ans (R : Type) : ApiOp → Type
  | .handler => R

/-- A handler ends at any time, in any way. -/
def apiMachine : Machine ApiOp (ApiOp.Ans R) (ApiState E R) E (Except E R) where
  exec | .handler, s => some (s.ending, s)
  env ending s := { s with ending }

abbrev ApiProg (E R α : Type) := Coro ApiOp (ApiOp.Ans R) (ApiState E R) E α

/-- The `try` block. -/
def tryHandler : ApiProg E R (Throttled R) :=
  Coro.ensure (Throttled.response <$> Coro.call ApiOp.handler)
    (Coro.write fun s => { s with __nreq := s.__nreq - 1 })

def throttler_middleware : ApiProg E R (Throttled R) := do
  if ← Coro.read fun s => decide (s.__nreq ≥ s.__request_quota) then
    Coro.write fun s => { s with __nblocked := s.__nblocked + 1 }
    return .tooManyRequests
  else
    Coro.write fun s => { s with __nreq := s.__nreq + 1 }
  tryHandler

/-! ## The stages of a request -/

/-- The end of an admitted request: that of its handler. -/
def leave : Except E R → ApiProg E R (Throttled R)
  | .ok res => .ret (.response res)
  | .error e => .raise e

/-- The rest of the middleware once the handler has ended. -/
def afterHandler (res : Except E R) : ApiProg E R (Throttled R) :=
  .sync (fun s => { s with __nreq := s.__nreq - 1 }) fun _ => leave res

theorem tryHandler_eq : (tryHandler : ApiProg E R (Throttled R)) = .await .handler afterHandler := by
  refine congrArg (Coro.await ApiOp.handler) (funext fun res => ?_)
  cases res with
  | ok res => rfl
  | error e => rfl

/-- What the first step of a request does. -/
theorem advance_throttler (s : ApiState E R) :
    throttler_middleware.advance s =
      if s.__nreq ≥ s.__request_quota then
        (.ret .tooManyRequests, { s with __nblocked := s.__nblocked + 1 })
      else (.await .handler afterHandler, { s with __nreq := s.__nreq + 1 }) := by
  unfold throttler_middleware
  rw [tryHandler_eq]
  by_cases h : s.__nreq ≥ s.__request_quota
  · rw [if_pos h]
    show Coro.advance (if decide (s.__nreq ≥ s.__request_quota) = true then _ else _) s = _
    rw [if_pos (decide_eq_true h)]
    rfl
  · rw [if_neg h]
    show Coro.advance (if decide (s.__nreq ≥ s.__request_quota) = true then _ else _) s = _
    rw [if_neg (by rwa [decide_eq_true_eq])]
    rfl

/-- Where a request stands. -/
inductive Stage : Thread ApiOp (ApiOp.Ans R) (ApiState E R) E (Throttled R) → Prop
  | idle : Stage .idle
  | blocked : Stage (.waiting (.ret .tooManyRequests))
  | handling : Stage (.waiting (.await .handler afterHandler))
  | leaving (res : Except E R) : Stage (.answered (afterHandler res))
  | returned (res : R) : Stage (.waiting (.ret (.response res)))
  | raised (e : E) : Stage (.waiting (.raise e))

variable {ι : Type} [DecidableEq ι]

abbrev ApiConfig (ι E R : Type) :=
  Config ι ApiOp (ApiOp.Ans R) (ApiState E R) E (Throttled R)

/-- One step of request `i`. -/
abbrev ApiConfig.stepOf (c : ApiConfig ι E R) (i : ι) : ApiConfig ι E R :=
  c.step apiMachine (fun _ => throttler_middleware) (.run i)

/-- What a step of a request can do. -/
inductive Steps (c : ApiConfig ι E R) (i : ι) : Prop
  | blocks (h : c.thread i = .idle) (hfull : c.state.__nreq ≥ c.state.__request_quota)
      (hthread : (c.stepOf i).thread i = .waiting (.ret .tooManyRequests))
      (hstate : (c.stepOf i).state =
        { c.state with __nblocked := c.state.__nblocked + 1 })
  | admits (h : c.thread i = .idle) (hfree : c.state.__nreq < c.state.__request_quota)
      (hthread : (c.stepOf i).thread i = .waiting (.await .handler afterHandler))
      (hstate : (c.stepOf i).state = { c.state with __nreq := c.state.__nreq + 1 })
  | ends (h : c.thread i = .waiting (.await .handler afterHandler))
      (hthread : (c.stepOf i).thread i = .answered (afterHandler c.state.ending))
      (hstate : (c.stepOf i).state = c.state)
  | leaves (res : Except E R) (h : c.thread i = .answered (afterHandler res))
      (hthread : (c.stepOf i).thread i = .waiting (leave res))
      (hstate : (c.stepOf i).state = { c.state with __nreq := c.state.__nreq - 1 })
  | stays (h : c.thread i ≠ .idle ∧ ¬ (c.thread i).InFlight)
      (hthread : (c.stepOf i).thread i = c.thread i)
      (hstate : (c.stepOf i).state = c.state)

omit [DecidableEq ι] in
theorem ended {c : ApiConfig ι E R} {i : ι} {p : ApiProg E R (Throttled R)}
    (ht : c.thread i = .waiting p) {r : Except E (Throttled R)}
    (hr : (Thread.waiting p).result = some r) : c.thread i ≠ .idle ∧ ¬ (c.thread i).InFlight := by
  rw [ht]
  refine ⟨fun h => (nomatch h), fun h => ?_⟩
  rw [h.2] at hr
  cases hr

theorem step_cases {c : ApiConfig ι E R} {i : ι} (h : Stage (c.thread i)) : Steps c i := by
  have hself : (c.stepOf i).thread i =
      ((c.thread i).step apiMachine i throttler_middleware c.world).1 := Config.step_thread_self
  have hworld : (c.stepOf i).state =
      ((c.thread i).step apiMachine i throttler_middleware c.world).2.state := rfl
  generalize ht : c.thread i = t at h hself hworld
  cases h with
  | idle =>
      simp only [Thread.step, advance_throttler] at hself hworld
      by_cases hfull : c.state.__nreq ≥ c.state.__request_quota
      · rw [if_pos hfull] at hself hworld
        exact .blocks ht hfull hself hworld
      · rw [if_neg hfull] at hself hworld
        exact .admits ht (not_le.mp hfull) hself hworld
  | handling => exact .ends ht hself hworld
  | leaving res =>
      refine .leaves res ht (hself.trans ?_) (hworld.trans ?_)
      · cases res <;> rfl
      · cases res <;> rfl
  | blocked => exact .stays (ended ht rfl) (hself.trans ht.symm) hworld
  | returned res => exact .stays (ended ht rfl) (hself.trans ht.symm) hworld
  | raised e => exact .stays (ended ht rfl) (hself.trans ht.symm) hworld

/-! ## The counter -/

/-- The counter counts the requests in flight, and the quota bounds it. -/
structure Counts (q : Int) (c : ApiConfig ι E R) : Prop where
  stage : ∀ i, Stage (c.thread i)
  finite : c.inFlight.Finite
  quota : c.state.__request_quota = q
  exact : c.state.__nreq = c.inFlight.ncard
  bound : c.state.__nreq ≤ max q 0

omit [DecidableEq ι] in
theorem counts_start (q : Int) (ending : Except E R) :
    Counts q (.start (.init q ending) : ApiConfig ι E R) := by
  have hnone : (.start (.init q ending) : ApiConfig ι E R).inFlight = ∅ := Config.inFlight_start _
  constructor
  · exact fun _ => .idle
  · rw [hnone]
    exact Set.finite_empty
  · rfl
  · rw [hnone, Set.ncard_empty]
    rfl
  · exact Int.le_max_right _ _

theorem stage_step {c : ApiConfig ι E R} (h : ∀ i, Stage (c.thread i)) (i j : ι) :
    Stage ((c.stepOf i).thread j) := by
  by_cases hj : j = i
  · rw [hj]
    cases step_cases (h i) with
    | blocks _ _ hthread _ =>
        rw [hthread]
        exact .blocked
    | admits _ _ hthread _ =>
        rw [hthread]
        exact .handling
    | ends _ hthread _ =>
        rw [hthread]
        exact .leaving _
    | leaves res _ hthread _ =>
        rw [hthread]
        cases res with
        | ok res => exact .returned res
        | error e => exact .raised e
    | stays _ hthread _ =>
        rw [hthread]
        exact h i
  · rw [Config.step_thread_ne hj]
    exact h j

/-- A request that leaves is no longer in flight, whichever way it leaves. -/
theorem not_inFlight_left (res : Except E R) : ¬ (Thread.waiting (leave res)).InFlight := by
  cases res with
  | ok res => exact fun h => nomatch h.2
  | error e => exact fun h => nomatch h.2

/-- What a step does to the counter and to the requests in flight. -/
theorem step_counts {c : ApiConfig ι E R} {i : ι} (h : Stage (c.thread i)) (hfin : c.inFlight.Finite) :
    (c.stepOf i).state.__request_quota = c.state.__request_quota ∧
      (((c.stepOf i).state.__nreq = c.state.__nreq ∧ (c.stepOf i).inFlight = c.inFlight) ∨
        (c.state.__nreq < c.state.__request_quota ∧
          (c.stepOf i).state.__nreq = c.state.__nreq + 1 ∧
            (c.stepOf i).inFlight.ncard = c.inFlight.ncard + 1) ∨
          ((c.stepOf i).state.__nreq = c.state.__nreq - 1 ∧
            (c.stepOf i).inFlight.ncard + 1 = c.inFlight.ncard)) := by
  cases step_cases h with
  | blocks hidle hfull hthread hstate =>
      rw [hstate]
      refine ⟨rfl, Or.inl ⟨rfl, Config.inFlight_step_of_same ?_⟩⟩
      rw [Config.mem_inFlight, Config.mem_inFlight, hthread, hidle]
      exact iff_of_false (fun h => nomatch h.2) fun h => h.1 rfl
  | admits hidle hfree hthread hstate =>
      rw [hstate]
      refine ⟨rfl, Or.inr (Or.inl ⟨hfree, rfl, Config.ncard_step_of_arrives hfin ?_ ?_⟩)⟩
      · rw [Config.mem_inFlight, hidle]
        exact fun h => h.1 rfl
      · rw [Config.mem_inFlight, hthread]
        exact Thread.inFlight_await _ _
  | ends hwait hthread hstate =>
      rw [hstate]
      refine ⟨rfl, Or.inl ⟨rfl, Config.inFlight_step_of_same ?_⟩⟩
      rw [Config.mem_inFlight, Config.mem_inFlight, hthread, hwait]
      exact iff_of_true (Thread.inFlight_answered _) (Thread.inFlight_await _ _)
  | leaves res hleave hthread hstate =>
      rw [hstate]
      refine ⟨rfl, Or.inr (Or.inr ⟨rfl, Config.ncard_step_of_leaves hfin ?_ ?_⟩)⟩
      · rw [Config.mem_inFlight, hleave]
        exact Thread.inFlight_answered _
      · rw [Config.mem_inFlight, hthread]
        exact not_inFlight_left res
  | stays hended hthread hstate =>
      rw [hstate]
      refine ⟨rfl, Or.inl ⟨rfl, Config.inFlight_step_of_same ?_⟩⟩
      rw [Config.mem_inFlight, Config.mem_inFlight, hthread]

theorem counts_step {q : Int} {c : ApiConfig ι E R} (h : Counts q c) (i : ι) :
    Counts q (c.stepOf i) := by
  obtain ⟨hquota, hcount⟩ := step_counts (h.stage i) h.finite
  have hexact := h.exact
  have hbound := h.bound
  have hq := h.quota
  refine ⟨stage_step h.stage i, Config.finite_step h.finite i, hquota.trans hq, ?_, ?_⟩
  · rcases hcount with ⟨hn, hset⟩ | ⟨-, hn, hcard⟩ | ⟨hn, hcard⟩
    · rw [hn, hset, hexact]
    · omega
    · omega
  · rcases hcount with ⟨hn, -⟩ | ⟨hfree, hn, -⟩ | ⟨hn, -⟩
    · omega
    · omega
    · omega

theorem counts_run (q : Int) (ending : Except E R) (as : List (Act ι (Except E R))) :
    Counts q (Config.run apiMachine (fun _ => throttler_middleware)
      (.start (.init q ending)) as) := by
  have hstep : ∀ (c : ApiConfig ι E R) (a : Act ι (Except E R)), Counts q c → True →
      Counts q (c.step apiMachine (fun _ => throttler_middleware) a) := by
    intro c a h _
    cases a with
    | env ending => exact ⟨h.stage, h.finite, h.quota, h.exact, h.bound⟩
    | run i => exact counts_step h i
  exact Config.run_induction hstep (counts_start q ending)
    (Config.along_of_forall (fun _ _ => trivial) _ as)

/-! ## Who is turned away -/

/-- Whether a request was turned away is decided as it arrives. -/
theorem turned_away_step {c : ApiConfig ι E R} (h : ∀ i, Stage (c.thread i)) {i : ι}
    (hi : c.thread i ≠ .idle) (a : Act ι (Except E R)) :
    (c.step apiMachine (fun _ => throttler_middleware) a).thread i ≠ .idle ∧
      (((c.step apiMachine (fun _ => throttler_middleware) a).thread i).result =
        some (.ok .tooManyRequests) ↔ (c.thread i).result = some (.ok .tooManyRequests)) := by
  cases a with
  | env ending => exact ⟨hi, Iff.rfl⟩
  | run j =>
      by_cases hj : i = j
      · subst hj
        cases step_cases (h i) with
        | blocks hidle => exact absurd hidle hi
        | admits hidle => exact absurd hidle hi
        | ends hwait hthread _ =>
            rw [hthread, hwait]
            exact ⟨(fun h => nomatch h), iff_of_false (fun h => nomatch h) fun h => nomatch h⟩
        | leaves res hleave hthread _ =>
            rw [hthread, hleave]
            cases res with
            | ok res => exact ⟨(fun h => nomatch h), iff_of_false (fun h => nomatch h) fun h => nomatch h⟩
            | error e => exact ⟨(fun h => nomatch h), iff_of_false (fun h => nomatch h) fun h => nomatch h⟩
        | stays _ hthread _ =>
            rw [hthread]
            exact ⟨hi, Iff.rfl⟩
      · rw [Config.step_thread_ne hj]
        exact ⟨hi, Iff.rfl⟩

theorem turned_away_run {q : Int} {c : ApiConfig ι E R} (h : Counts q c) {i : ι}
    (hi : c.thread i ≠ .idle) (as : List (Act ι (Except E R))) :
    ((c.run apiMachine (fun _ => throttler_middleware) as).thread i).result =
      some (.ok .tooManyRequests) ↔ (c.thread i).result = some (.ok .tooManyRequests) := by
  induction as generalizing c with
  | nil => exact Iff.rfl
  | cons a as ih =>
      obtain ⟨hi', hsame⟩ := turned_away_step h.stage hi a
      have hcounts : Counts q (c.step apiMachine (fun _ => throttler_middleware) a) := by
        cases a with
        | env ending => exact ⟨h.stage, h.finite, h.quota, h.exact, h.bound⟩
        | run j => exact counts_step h j
      exact (ih hcounts hi').trans hsame

/-- On its arrival a request is turned away, and the counter left alone, exactly when the
requests in flight use the quota up. -/
theorem turned_away_on_arrival {q : Int} {c : ApiConfig ι E R} (h : Counts q c) {i : ι}
    (hi : c.thread i = .idle) :
    (((c.stepOf i).thread i).result = some (.ok .tooManyRequests) ↔ q ≤ c.inFlight.ncard) ∧
      (q ≤ c.inFlight.ncard → (c.stepOf i).state.__nreq = c.state.__nreq) := by
  have hexact := h.exact
  have hq := h.quota
  cases step_cases (h.stage i) with
  | blocks _ hfull hthread hstate =>
      rw [hthread, hstate]
      exact ⟨iff_of_true rfl (by omega), fun _ => rfl⟩
  | admits _ hfree hthread hstate =>
      rw [hthread]
      exact ⟨iff_of_false (fun h => nomatch h) (by omega), fun hle => by omega⟩
  | ends hwait => exact absurd (hi.symm.trans hwait) fun h => nomatch h
  | leaves _ hleave => exact absurd (hi.symm.trans hleave) fun h => nomatch h
  | stays hended => exact absurd hi hended.1

/-- **Throttling.**  After any run the counter is the number of requests in flight and
within the quota, and a request was turned away exactly when as many as the quota were in
flight on its arrival, without any effect on the counter. -/
theorem CsmRestApi.throttling_exact (q : Int) (ending : Except E R)
    (as : List (Act ι (Except E R))) :
    let after := fun as => Config.run apiMachine (fun _ : ι => throttler_middleware)
      (.start (.init q ending)) as
    (after as).inFlight.Finite ∧ (after as).state.__nreq = (after as).inFlight.ncard ∧
      0 ≤ (after as).state.__nreq ∧ (after as).state.__nreq ≤ max q 0 ∧
      ((after as).Quiet → (after as).state.__nreq = 0) ∧
      ∀ bs i cs, as = bs ++ .run i :: cs → (after bs).thread i = .idle →
        (((after as).thread i).result = some (.ok .tooManyRequests) ↔
          q ≤ (after bs).inFlight.ncard) ∧
        (((after as).thread i).result = some (.ok .tooManyRequests) →
          (after (bs ++ [.run i])).state.__nreq = (after bs).state.__nreq) := by
  intro after
  have hcounts := counts_run (ι := ι) q ending
  have h := hcounts as
  refine ⟨h.finite, h.exact, ?_, h.bound, fun hquiet => ?_, ?_⟩
  · rw [h.exact]
    exact Int.natCast_nonneg _
  · have hnone : (after as).inFlight = ∅ := Set.eq_empty_of_forall_notMem hquiet
    rw [h.exact, hnone, Set.ncard_empty]
    rfl
  · rintro bs i cs rfl hi
    obtain ⟨hturned, hkept⟩ := turned_away_on_arrival (hcounts bs) hi
    have hcalled : (ApiConfig.stepOf (after bs) i).thread i ≠ .idle := by
      rw [Config.step_thread_self, hi]
      exact fun h => nomatch h
    have hrest := turned_away_run (counts_step (hcounts bs) i) hcalled cs
    have hrun : after (bs ++ .run i :: cs) = Config.run apiMachine
        (fun _ => throttler_middleware) (ApiConfig.stepOf (after bs) i) cs := Config.run_append _ bs _
    rw [← hrun] at hrest
    refine ⟨hrest.trans hturned, fun h => ?_⟩
    have hone : after (bs ++ [.run i]) = ApiConfig.stepOf (after bs) i := Config.run_concat _ bs _
    rw [hone]
    exact hkept (hturned.mp (hrest.mp h))

end

end CortxCsm
