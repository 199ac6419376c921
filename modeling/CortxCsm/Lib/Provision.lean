/-
# `CortxCsm.Lib.Provision` — things that are made, then fitted

A thing is made unless it is there already, and what was made is fitted out.  Both are calls to
somebody else: one may be refused, or be carried out and its answer lost.  Nobody comes back to
a thing that is there, so one that was made and not fitted stays that way.

**Proved here.**

    what there is stays as it is                           (`get?_fillAll`, `get?_run`)
    a thing lacks its fittings exactly when it did at the start
    or an attempt was cut off over it                      (`unfitted_run`)
    what is new was made and fitted as some attempt had it (`of_run`)
-/
import CortxCsm.Lib.Run
import CortxCsm.Lib.Table

namespace Provision

open Run

/-- A thing: what it was made with, and what it was fitted with, if it was. -/
structure Item (α β : Type) where
  made : α
  fitted : Option β
  deriving DecidableEq

/-- How a call ends. -/
inductive Reply (ε : Type)
  | done
  | lost (e : ε)
  | refused (e : ε)

abbrev Stock (κ α β : Type) := Dict κ (Item α β)

/-- What is wanted, and how the calls for it will end; `asks` is the exception, if any, before
it is known whether the thing is there. -/
structure Order (κ α β ε : Type) where
  key : κ
  making : α
  fitting : β
  asks : Option ε
  makes : Reply ε
  fits : Reply ε

variable {κ α β ε : Type} [DecidableEq κ]

namespace Order

/-- Fitting what was made. -/
def fit (o : Order κ α β ε) (stock : Stock κ α β) : Except ε Unit × Stock κ α β :=
  match o.fits with
  | .done => (.ok (), stock.set o.key ⟨o.making, some o.fitting⟩)
  | .lost e => (.error e, stock.set o.key ⟨o.making, some o.fitting⟩)
  | .refused e => (.error e, stock)

/-- Making it. -/
def make (o : Order κ α β ε) (stock : Stock κ α β) : Except ε Unit × Stock κ α β :=
  match o.makes with
  | .done => o.fit (stock.set o.key ⟨o.making, none⟩)
  | .lost e => (.error e, stock.set o.key ⟨o.making, none⟩)
  | .refused e => (.error e, stock)

def fill (o : Order κ α β ε) (stock : Stock κ α β) : Except ε Unit × Stock κ α β :=
  match o.asks with
  | some e => (.error e, stock)
  | none => if (stock.get? o.key).isSome then (.ok (), stock) else o.make stock

/-- The order makes its thing. -/
def Makes (o : Order κ α β ε) (stock : Stock κ α β) : Prop :=
  o.asks = none ∧ stock.get? o.key = none ∧ ∀ e, o.makes ≠ .refused e

/-- The order makes its thing and does not fit it. -/
def CutOff (o : Order κ α β ε) (stock : Stock κ α β) : Prop :=
  o.Makes stock ∧ ((∃ e, o.makes = .lost e) ∨ ∃ e, o.fits = .refused e)

end Order

/-- One order after the other, up to the first exception. -/
def fillAll : List (Order κ α β ε) → Stock κ α β → Except ε Unit × Stock κ α β
  | [], stock => (.ok (), stock)
  | o :: orders, stock =>
      match o.fill stock with
      | (.ok (), stock') => fillAll orders stock'
      | (.error e, stock') => (.error e, stock')

/-- An order of the list that is reached cuts off over the thing `k`. -/
def CutsOff (k : κ) : List (Order κ α β ε) → Stock κ α β → Prop
  | [], _ => False
  | o :: orders, stock =>
      (o.key = k ∧ o.CutOff stock) ∨
        (o.fill stock).1 = .ok () ∧ CutsOff k orders (o.fill stock).2

/-- The thing is there without its fittings. -/
def Unfitted (stock : Stock κ α β) (k : κ) : Prop := ∃ item ∈ stock.get? k, item.fitted = none

variable {o : Order κ α β ε} {orders : List (Order κ α β ε)} {stock : Stock κ α β} {k : κ}
variable {item : Item α β}

/-! ## One order -/

theorem fill_of_asks {e : ε} (h : o.asks = some e) : o.fill stock = (.error e, stock) := by
  rw [Order.fill, h]

theorem fill_of_present (hasks : o.asks = none) (h : stock.get? o.key = some item) :
    o.fill stock = (.ok (), stock) := by
  rw [Order.fill, hasks]
  exact if_pos (by rw [h]; rfl)

theorem fill_of_absent (hasks : o.asks = none) (h : stock.get? o.key = none) :
    o.fill stock = o.make stock := by
  rw [Order.fill, hasks]
  exact if_neg (by rw [h]; exact Bool.false_ne_true)

/-- What an order can do. -/
inductive Fills (o : Order κ α β ε) (stock : Stock κ α β) : Except ε Unit × Stock κ α β → Prop
  | asks (e : ε) (h : ¬ o.Makes stock) : Fills o stock (.error e, stock)
  | present (hasks : o.asks = none) (item : Item α β) (h : stock.get? o.key = some item) :
      Fills o stock (.ok (), stock)
  | cutOff (e : ε) (h : o.CutOff stock) :
      Fills o stock (.error e, stock.set o.key ⟨o.making, none⟩)
  | fitted (r : Except ε Unit) (h : o.Makes stock) (hnot : ¬ o.CutOff stock)
      (stock' : Stock κ α β)
      (hstock : ∀ k, stock'.get? k =
        if o.key = k then some ⟨o.making, some o.fitting⟩ else stock.get? k) :
      Fills o stock (r, stock')

theorem get?_set_set (stock : Stock κ α β) (key k : κ) (item item' : Item α β) :
    ((stock.set key item).set key item').get? k = if key = k then some item' else stock.get? k := by
  rw [Table.get?_set, Table.get?_set]
  split
  · rfl
  · rfl

theorem fills (o : Order κ α β ε) (stock : Stock κ α β) : Fills o stock (o.fill stock) := by
  cases hasks : o.asks with
  | some e =>
      rw [fill_of_asks hasks]
      refine .asks e fun h => ?_
      rw [h.1] at hasks
      cases hasks
  | none =>
      cases hget : stock.get? o.key with
      | some item =>
          rw [fill_of_present hasks hget]
          exact .present hasks item hget
      | none =>
          have hmakes : ∀ {reply}, o.makes = reply → (∀ e, reply ≠ .refused e) → o.Makes stock := by
            intro reply hreply hne
            exact ⟨hasks, hget, fun e he => hne e (hreply.symm.trans he)⟩
          rw [fill_of_absent hasks hget, Order.make]
          cases hmake : o.makes with
          | refused e => exact .asks e fun h => h.2.2 e hmake
          | lost e =>
              exact .cutOff e ⟨hmakes hmake fun _ h => (nomatch h), .inl ⟨e, hmake⟩⟩
          | done =>
              have hmade := hmakes hmake fun _ h => (nomatch h)
              have hwhole : (∀ e, o.fits ≠ .refused e) → ¬ o.CutOff stock := by
                rintro hne ⟨-, ⟨e, he⟩ | ⟨e, he⟩⟩
                · rw [hmake] at he
                  cases he
                · exact hne e he
              dsimp only
              rw [Order.fit]
              cases hfit : o.fits with
              | refused e => exact .cutOff e ⟨hmade, .inr ⟨e, hfit⟩⟩
              | lost e =>
                  refine .fitted _ hmade (hwhole fun e' he => ?_) _ fun k => get?_set_set _ _ _ _ _
                  rw [hfit] at he
                  cases he
              | done =>
                  refine .fitted _ hmade (hwhole fun e' he => ?_) _ fun k => get?_set_set _ _ _ _ _
                  rw [hfit] at he
                  cases he

/-- What there is stays as it is. -/
theorem get?_fill (h : stock.get? k = some item) : (o.fill stock).2.get? k = some item := by
  have hne : o.Makes stock → o.key ≠ k := by
    rintro hmakes rfl
    rw [hmakes.2.1] at h
    cases h
  have hfills := fills o stock
  generalize o.fill stock = r at hfills ⊢
  cases hfills with
  | asks e hnot => exact h
  | present hasks item' hget => exact h
  | cutOff e hcut =>
      rw [Table.get?_set, if_neg (hne hcut.1)]
      exact h
  | fitted r hmakes hnot stock' hstock =>
      rw [hstock, if_neg (hne hmakes)]
      exact h

/-- What is new was made as ordered, and fitted if it was not cut off. -/
theorem of_fill (h : stock.get? k = none) (h' : (o.fill stock).2.get? k = some item) :
    o.Makes stock ∧ o.key = k ∧ item.made = o.making ∧
      (item.fitted = none ∧ o.CutOff stock ∨
        item.fitted = some o.fitting ∧ ¬ o.CutOff stock) := by
  revert h'
  have hfills := fills o stock
  generalize o.fill stock = r at hfills ⊢
  cases hfills with
  | asks e hnot =>
      intro h'
      cases h.symm.trans h'
  | present hasks item' hget =>
      intro h'
      cases h.symm.trans h'
  | cutOff e hcut =>
      intro h'
      rw [Table.get?_set] at h'
      by_cases hk : o.key = k
      · rw [if_pos hk] at h'
        cases h'
        exact ⟨hcut.1, hk, rfl, .inl ⟨rfl, hcut⟩⟩
      · rw [if_neg hk, h] at h'
        cases h'
  | fitted r hmakes hnot stock' hstock =>
      intro h'
      rw [hstock] at h'
      by_cases hk : o.key = k
      · rw [if_pos hk] at h'
        cases h'
        exact ⟨hmakes, hk, rfl, .inr ⟨rfl, hnot⟩⟩
      · rw [if_neg hk, h] at h'
        cases h'

theorem get?_fill_of_cutOff (h : o.CutOff stock) :
    (o.fill stock).2.get? o.key = some ⟨o.making, none⟩ := by
  have hmakes := h.1
  have hfills := fills o stock
  generalize o.fill stock = r at hfills ⊢
  cases hfills with
  | asks e hnot => exact absurd hmakes hnot
  | present hasks item hget => cases hmakes.2.1.symm.trans hget
  | cutOff e hcut => rw [Table.get?_set, if_pos rfl]
  | fitted r hmade hnot stock' hstock => exact absurd h hnot

theorem unfitted_fill : Unfitted (o.fill stock).2 k ↔
    Unfitted stock k ∨ (o.key = k ∧ o.CutOff stock) := by
  cases hget : stock.get? k with
  | some item =>
      -- what is there stays, and nothing is made in its place
      have hsame : Unfitted (o.fill stock).2 k ↔ Unfitted stock k := by
        unfold Unfitted
        rw [get?_fill hget, hget]
      rw [hsame]
      refine (or_iff_left ?_).symm
      rintro ⟨rfl, hcut⟩
      cases hcut.1.2.1.symm.trans hget
  | none =>
      have hnot : ¬ Unfitted stock k := by
        rintro ⟨item, hitem, -⟩
        rw [hget] at hitem
        cases hitem
      rw [or_iff_right hnot]
      constructor
      · rintro ⟨item, hitem, hfitted⟩
        obtain ⟨-, hk, -, ⟨-, hcut⟩ | ⟨hsome, -⟩⟩ := of_fill hget hitem
        · exact ⟨hk, hcut⟩
        · cases hfitted.symm.trans hsome
      · rintro ⟨rfl, hcut⟩
        exact ⟨_, get?_fill_of_cutOff hcut, rfl⟩

/-- An order that comes through has its thing there. -/
theorem isSome_of_fill (h : (o.fill stock).1 = .ok ()) :
    ((o.fill stock).2.get? o.key).isSome := by
  revert h
  have hfills := fills o stock
  generalize o.fill stock = r at hfills ⊢
  cases hfills with
  | asks e hnot =>
      intro h
      cases h
  | present hasks item hget =>
      intro _
      rw [hget]
      rfl
  | cutOff e hcut =>
      intro h
      cases h
  | fitted r hmakes hnot stock' hstock =>
      intro _
      rw [hstock, if_pos rfl]
      rfl

/-! ## A list of orders -/

theorem fillAll_cons_ok (h : (o.fill stock).1 = .ok ()) :
    fillAll (o :: orders) stock = fillAll orders (o.fill stock).2 := by
  rw [fillAll]
  rcases hfill : o.fill stock with ⟨r, stock'⟩
  rw [hfill] at h
  cases h
  rfl

theorem fillAll_cons_error {e : ε} (h : (o.fill stock).1 = .error e) :
    fillAll (o :: orders) stock = o.fill stock := by
  rw [fillAll]
  rcases hfill : o.fill stock with ⟨r, stock'⟩
  rw [hfill] at h
  cases h
  rfl

theorem get?_fillAll : ∀ {stock : Stock κ α β}, stock.get? k = some item →
    (fillAll orders stock).2.get? k = some item := by
  induction orders with
  | nil =>
      intro stock h
      exact h
  | cons o orders ih =>
      intro stock h
      cases hfill : (o.fill stock).1 with
      | ok u =>
          rw [fillAll_cons_ok hfill]
          exact ih (get?_fill h)
      | error e =>
          rw [fillAll_cons_error hfill]
          exact get?_fill h

theorem unfitted_fillAll : ∀ {stock : Stock κ α β}, Unfitted (fillAll orders stock).2 k ↔
    Unfitted stock k ∨ CutsOff k orders stock := by
  induction orders with
  | nil =>
      intro stock
      exact (or_iff_left fun hn => hn).symm
  | cons o orders ih =>
      intro stock
      rw [CutsOff]
      cases hfill : (o.fill stock).1 with
      | ok u => rw [fillAll_cons_ok hfill, ih, unfitted_fill, or_assoc, and_iff_right rfl]
      | error e =>
          rw [fillAll_cons_error hfill, unfitted_fill]
          simp

theorem of_fillAll : ∀ {stock : Stock κ α β}, stock.get? k = none →
    (fillAll orders stock).2.get? k = some item →
      ∃ o ∈ orders, (∃ stock, o.Makes stock) ∧ o.key = k ∧ item.made = o.making ∧
        (item.fitted = none ∨ item.fitted = some o.fitting) := by
  induction orders with
  | nil =>
      intro stock h h'
      cases h.symm.trans h'
  | cons o orders ih =>
      intro stock h h'
      have hfirst : (o.fill stock).2.get? k = some item →
          ∃ o' ∈ o :: orders, (∃ stock, o'.Makes stock) ∧ o'.key = k ∧ item.made = o'.making ∧
            (item.fitted = none ∨ item.fitted = some o'.fitting) := by
        intro hnew
        obtain ⟨hmakes, hk, hmade, hfitted⟩ := of_fill h hnew
        exact ⟨o, List.mem_cons_self, ⟨stock, hmakes⟩, hk, hmade,
          hfitted.imp And.left And.left⟩
      cases hfill : (o.fill stock).1 with
      | error e =>
          rw [fillAll_cons_error hfill] at h'
          exact hfirst h'
      | ok u =>
          rw [fillAll_cons_ok hfill] at h'
          cases hget : (o.fill stock).2.get? k with
          | some item' =>
              cases h'.symm.trans (get?_fillAll hget)
              exact hfirst hget
          | none =>
              obtain ⟨o', ho', hrest⟩ := ih hget h'
              exact ⟨o', List.mem_cons_of_mem _ ho', hrest⟩

/-- A list that comes through has all its things there. -/
theorem isSome_of_fillAll : ∀ {stock : Stock κ α β}, (fillAll orders stock).1 = .ok () →
    ∀ o ∈ orders, ((fillAll orders stock).2.get? o.key).isSome := by
  induction orders with
  | nil =>
      intro stock _ o ho
      cases ho
  | cons o orders ih =>
      intro stock h o' ho'
      cases hfill : (o.fill stock).1 with
      | error e =>
          rw [fillAll_cons_error hfill, hfill] at h
          cases h
      | ok u =>
          rw [fillAll_cons_ok hfill] at h ⊢
          rcases List.mem_cons.mp ho' with rfl | hrest
          · obtain ⟨item, hitem⟩ := Option.isSome_iff_exists.mp (isSome_of_fill hfill)
            rw [get?_fillAll hitem]
            rfl
          · exact ih h o' hrest

/-! ## Attempts -/

/-- An attempt, as a step of a run. -/
def attempt (stock : Stock κ α β) (orders : List (Order κ α β ε)) : Stock κ α β :=
  (fillAll orders stock).2

variable {attempts : List (List (Order κ α β ε))}

theorem get?_run : ∀ {stock : Stock κ α β}, stock.get? k = some item →
    (run attempt stock attempts).get? k = some item := by
  induction attempts with
  | nil =>
      intro stock h
      exact h
  | cons orders attempts ih =>
      intro stock h
      exact ih (get?_fillAll h)

theorem unfitted_run : ∀ {stock : Stock κ α β}, Unfitted (run attempt stock attempts) k ↔
    Unfitted stock k ∨ ∃ v ∈ visits attempt stock attempts, CutsOff k v.2 v.1 := by
  induction attempts with
  | nil =>
      intro stock
      simp [visits]
  | cons orders attempts ih =>
      intro stock
      rw [run_cons, ih, attempt, unfitted_fillAll, or_assoc]
      simp [visits, attempt]

theorem of_run : ∀ {stock : Stock κ α β}, stock.get? k = none →
    (run attempt stock attempts).get? k = some item →
      ∃ orders ∈ attempts, ∃ o ∈ orders, (∃ stock, o.Makes stock) ∧ o.key = k ∧
        item.made = o.making ∧ (item.fitted = none ∨ item.fitted = some o.fitting) := by
  induction attempts with
  | nil =>
      intro stock h h'
      cases h.symm.trans h'
  | cons orders attempts ih =>
      intro stock h h'
      cases hget : (attempt stock orders).get? k with
      | some item' =>
          have hkept : (run attempt (attempt stock orders) attempts).get? k = some item' :=
            get?_run hget
          cases h'.symm.trans hkept
          exact ⟨orders, List.mem_cons_self, of_fillAll h hget⟩
      | none =>
          obtain ⟨orders', hmem, hrest⟩ := ih hget h'
          exact ⟨orders', List.mem_cons_of_mem _ hmem, hrest⟩

/-- After an attempt that came through, its things stay there. -/
theorem isSome_of_visit {v : Stock κ α β × List (Order κ α β ε)} :
    ∀ {stock : Stock κ α β}, v ∈ visits attempt stock attempts →
      (fillAll v.2 v.1).1 = .ok () →
        ∀ o ∈ v.2, ((run attempt stock attempts).get? o.key).isSome := by
  induction attempts with
  | nil =>
      intro stock hv
      cases hv
  | cons orders attempts ih =>
      intro stock hv hok o ho
      rcases List.mem_cons.mp hv with rfl | hrest
      · obtain ⟨item, hitem⟩ := Option.isSome_iff_exists.mp (isSome_of_fillAll hok o ho)
        rw [run_cons, attempt, get?_run hitem]
        rfl
      · exact ih hrest hok o ho

end Provision
