/-
# `CortxCsm.MailConnection` — over which connections mails go out

`EmailSender._reconnect` sets `_is_connected` as soon as the connection is there, and starts TLS
and logs in after that.  If one of these raises, the exception leaves the loop, or the last
attempt, with the flag still set; the worker keeps the sender for the next mail, and that mail
is handed to a connection that was never secured or logged in.

`Smtp` gives what the library answers attempt by attempt, so `smtp.connect i = .connected` says
that attempt `i` was gone through to its end.

**Proved here.**

    how `_reconnect` ends, by the answers it meets             (`reconnect_cases`)
    every mail goes over a connection that has been set up,
    exactly if no set-up before it is left half done           (`mails_secured_iff`)
-/
import CortxCsm.EmailQueue

namespace CortxCsm

namespace MailConnection

open EmailQueue EmailSender

variable {smtp : Smtp} {n : Nat} {self self' : EmailSender}

/-- The connection is gone through with: TLS, and the login. -/
def SetUp (smtp : Smtp) (i : Nat) : Prop := smtp.connect i = .connected

/-- From attempt `i` on, `left` of them, the set-up is left with a connection half done: by an
exception that is not tried again, or on the last attempt. -/
def HalfDone (smtp : Smtp) : (i left : Nat) → Prop
  | _, 0 => False
  | i, left + 1 =>
      match smtp.connect i with
      | .connected => False
      | .raised created e =>
          if (handleConnect e).isSome ∨ left = 0 then created = true
          else HalfDone smtp (i + 1) left

instance decidableHalfDone (smtp : Smtp) : (i left : Nat) → Decidable (HalfDone smtp i left)
  | _, 0 => isFalse id
  | i, left + 1 => by
      unfold HalfDone
      have := decidableHalfDone smtp (i + 1) left
      split
      · exact isFalse id
      · infer_instance

/-- The number of the connection that a mail is handed to, if it gets that far. -/
def handedTo (smtp : Smtp) (reconnect_attempts : Nat) (self : EmailSender) : Option Nat :=
  match connected smtp reconnect_attempts self with
  | (.ok (), self) => some (self.connects - 1)
  | (.error _, _) => none

/-- A sender after that many mails. -/
def sender (smtp : Smtp) (reconnect_attempts : Nat) : (mails : Nat) → EmailSender
  | 0 => ⟨false, 0, 0⟩
  | mails + 1 => (_send smtp reconnect_attempts (sender smtp reconnect_attempts mails)).2

/-! ## Connecting -/

/-- How the attempts to connect end. -/
inductive Reconnects (smtp : Smtp) (i left : Nat) (r : Except SendExc Unit) (self' : EmailSender) :
    Prop
  | connected (hr : r = .ok ()) (h : self'._is_connected = true) (hnot : ¬ HalfDone smtp i left)
      (hlast : SetUp smtp (self'.connects - 1))
  | refused (hr : ∃ e, r = .error e) (h : self'._is_connected = false)
      (hnot : ¬ HalfDone smtp i left)
  | halfDone (hr : ∃ e, r = .error e) (h : self'._is_connected = true)
      (hhalf : HalfDone smtp i left) (hlast : ¬ SetUp smtp (self'.connects - 1))

theorem reconnect_step (smtp : Smtp) (left : Nat) (self : EmailSender) :
    _reconnect smtp (left + 1) self =
      match smtp.connect self.connects with
      | .connected => (.ok (), { self with _is_connected := true, connects := self.connects + 1 })
      | .raised created e =>
          match handleConnect e with
          | none => _reconnect smtp left
              { self with _is_connected := created, connects := self.connects + 1 }
          | some e => (.error e,
              { self with _is_connected := created, connects := self.connects + 1 }) := by
  have hclose : _close self = (.ok ⟨⟩, { self with _is_connected := false }) := rfl
  show (_close >>= _) self = _
  rw [Raising.bind_ok hclose]
  show (match smtp.connect self.connects with | .connected => _ | .raised created e => _ :
    Raising EmailSender SendExc Unit) _ = _
  cases hc : smtp.connect self.connects with
  | connected => rfl
  | raised created e =>
      dsimp only
      show (match handleConnect e with | none => _ | some e => _ :
        Raising EmailSender SendExc Unit) _ = _
      cases he : handleConnect e with
      | none => rfl
      | some e' => rfl

theorem reconnect_cases (smtp : Smtp) : ∀ (left : Nat) (self : EmailSender),
    (left = 0 → self._is_connected = false) →
      Reconnects smtp self.connects left (_reconnect smtp left self).1 (_reconnect smtp left self).2
  | 0, self, hclosed => .refused ⟨_, rfl⟩ (hclosed rfl) id
  | left + 1, self, _ => by
      rw [reconnect_step]
      cases hc : smtp.connect self.connects with
      | connected =>
          refine .connected rfl rfl ?_ hc
          unfold HalfDone
          rw [hc]
          exact id
      | raised created e =>
          have hnot : ¬ SetUp smtp self.connects := by
            unfold SetUp
            rw [hc]
            exact Connecting.noConfusion
          have hhalf : HalfDone smtp self.connects (left + 1) ↔
              if (handleConnect e).isSome ∨ left = 0 then created = true
              else HalfDone smtp (self.connects + 1) left := by
            rw [HalfDone, hc]
          dsimp only
          cases he : handleConnect e with
          | some e' =>
              rw [he, if_pos (.inl rfl)] at hhalf
              cases created with
              | true => exact .halfDone ⟨e', rfl⟩ rfl (hhalf.mpr rfl) hnot
              | false => exact .refused ⟨e', rfl⟩ rfl fun h => Bool.noConfusion (hhalf.mp h)
          | none =>
              rw [he] at hhalf
              dsimp only
              cases left with
              | zero =>
                  rw [if_pos (.inr rfl)] at hhalf
                  cases created with
                  | true => exact .halfDone ⟨_, rfl⟩ rfl (hhalf.mpr rfl) hnot
                  | false => exact .refused ⟨_, rfl⟩ rfl fun h => Bool.noConfusion (hhalf.mp h)
              | succ left =>
                  rw [if_neg (by simp)] at hhalf
                  have hrest := reconnect_cases smtp (left + 1)
                    { self with _is_connected := created, connects := self.connects + 1 }
                    fun h => absurd h (Nat.succ_ne_zero left)
                  cases hrest with
                  | connected hr h hn hlast => exact .connected hr h (hn ∘ hhalf.mp) hlast
                  | refused hr h hn => exact .refused hr h (hn ∘ hhalf.mp)
                  | halfDone hr h hh hlast => exact .halfDone hr h (hhalf.mpr hh) hlast

/-! ## A mail -/

theorem connected_of_open (h : self._is_connected = true) :
    connected smtp n self = (.ok (), self) := by
  show (if !self._is_connected then _ else _ : Raising EmailSender SendExc Unit) self = _
  rw [h]
  rfl

theorem connected_of_closed (h : self._is_connected = false) :
    connected smtp n self = _reconnect smtp n self := by
  show (if !self._is_connected then _ else _ : Raising EmailSender SendExc Unit) self = _
  rw [h]
  rfl

theorem send_of_error {e : SendExc} (h : connected smtp n self = (.error e, self')) :
    (_send smtp n self).2 = self' := by
  show ((connected smtp n >>= _) self).2 = _
  rw [Raising.bind_apply, h]

/-- A mail that is handed over leaves the connection as it is, or closes it. -/
theorem send_of_ok (h : connected smtp n self = (.ok (), self')) :
    (_send smtp n self).2.connects = self'.connects ∧
      ((_send smtp n self).2._is_connected = true → self'._is_connected = true) := by
  have hget : (get : Raising EmailSender SendExc EmailSender) self' = (.ok self', self') := rfl
  have hset : (set { self' with transmits := self'.transmits + 1 } :
      Raising EmailSender SendExc PUnit) self' =
        (.ok ⟨⟩, { self' with transmits := self'.transmits + 1 }) := rfl
  unfold _send SEND_MAIL_ATTEMPTS sendLoop
  rw [Raising.bind_ok h, Raising.bind_ok hget, Raising.bind_ok hset]
  cases smtp.transmit self'.transmits with
  | none => exact ⟨rfl, id⟩
  | some e =>
      dsimp only
      cases handleTransmit e with
      | none => exact ⟨rfl, fun hclosed => Bool.noConfusion hclosed⟩
      | some e => exact ⟨rfl, id⟩

/-- An open connection has been set up. -/
def Sound (smtp : Smtp) (self : EmailSender) : Prop :=
  self._is_connected = true → SetUp smtp (self.connects - 1)

/-- A mail finds no connection, and the set-up it starts is left half done. -/
def LeftHalfDone (smtp : Smtp) (reconnect_attempts : Nat) (self : EmailSender) : Prop :=
  self._is_connected = false ∧ HalfDone smtp self.connects reconnect_attempts

/-- What there is when a sound sender is through with connecting. -/
theorem connected_sound {r : Except SendExc Unit} (hs : Sound smtp self)
    (hrun : connected smtp n self = (r, self')) :
    (Sound smtp self' ↔ ¬ LeftHalfDone smtp n self) ∧
      (r = .ok () → self'._is_connected = true ∧ Sound smtp self') := by
  cases hopen : self._is_connected with
  | true =>
      rw [connected_of_open hopen] at hrun
      cases hrun
      refine ⟨iff_of_true hs fun h => ?_, fun _ => ⟨hopen, hs⟩⟩
      exact Bool.noConfusion (hopen.symm.trans h.1)
  | false =>
      have hends := reconnect_cases smtp n self fun _ => hopen
      rw [connected_of_closed hopen] at hrun
      rw [hrun] at hends
      cases hends with
      | connected _ h hnot hlast =>
          exact ⟨iff_of_true (fun _ => hlast) fun hh => hnot hh.2, fun _ => ⟨h, fun _ => hlast⟩⟩
      | refused hr h hnot =>
          obtain ⟨e, rfl⟩ := hr
          refine ⟨iff_of_true (fun ho => ?_) fun hh => hnot hh.2, fun hok => by cases hok⟩
          exact Bool.noConfusion (h.symm.trans ho)
      | halfDone hr h hhalf hlast =>
          obtain ⟨e, rfl⟩ := hr
          refine ⟨iff_of_false (fun hsound => hlast (hsound h)) fun hno => ?_,
            fun hok => by cases hok⟩
          exact hno ⟨hopen, hhalf⟩

/-- A sound sender hands its mail to a connection that is set up. -/
theorem setUp_of_handedTo (hs : Sound smtp self) {c : Nat} (hc : handedTo smtp n self = some c) :
    SetUp smtp c := by
  unfold handedTo at hc
  cases hrun : connected smtp n self with
  | mk r self' =>
      rw [hrun] at hc
      cases r with
      | ok a =>
          obtain ⟨hopen, hsound⟩ := (connected_sound hs hrun).2 rfl
          cases hc
          exact hsound hopen
      | error e => cases hc

/-- The next mail of one that is not sound goes over a connection that is not set up. -/
theorem handedTo_of_not_sound (h : ¬ Sound smtp self) :
    ∃ c, handedTo smtp n self = some c ∧ ¬ SetUp smtp c := by
  obtain ⟨hopen, hnot⟩ := Classical.not_imp.mp h
  refine ⟨_, ?_, hnot⟩
  unfold handedTo
  rw [connected_of_open hopen]

theorem sound_send (hs : Sound smtp self) :
    Sound smtp (_send smtp n self).2 ↔ ¬ LeftHalfDone smtp n self := by
  cases hrun : connected smtp n self with
  | mk r self' =>
      have hself' := connected_sound hs hrun
      cases r with
      | ok a =>
          have hsound := (hself'.2 rfl).2
          obtain ⟨hconnects, hopen⟩ := send_of_ok hrun
          refine iff_of_true (fun ho => ?_) (hself'.1.mp hsound)
          rw [hconnects]
          exact hsound (hopen ho)
      | error e =>
          rw [send_of_error hrun]
          exact hself'.1

/-! ## Mails one after the other -/

/-- A sender stays sound as long as no set-up is left half done. -/
theorem sound_sender (smtp : Smtp) (n : Nat) : ∀ m,
    (∀ k < m, ¬ LeftHalfDone smtp n (sender smtp n k)) → Sound smtp (sender smtp n m)
  | 0, _ => fun h => Bool.noConfusion h
  | m + 1, h => by
      have hs := sound_sender smtp n m fun k hk => h k (Nat.lt_succ_of_lt hk)
      exact (sound_send hs).mpr (h m (Nat.lt_succ_self m))

/-- Whatever a mail server answers, the mails of a sender go over connections that have been
secured and logged in to, exactly if none but the last of them leaves a set-up half done. -/
theorem mails_secured_iff (smtp : Smtp) (reconnect_attempts m : Nat) :
    (∀ k < m, ∀ c, handedTo smtp reconnect_attempts (sender smtp reconnect_attempts k) = some c →
        SetUp smtp c) ↔
      ∀ k, k + 1 < m →
        ¬ LeftHalfDone smtp reconnect_attempts (sender smtp reconnect_attempts k) := by
  constructor
  · intro h k
    induction k using Nat.strongRecOn with
    | ind k ih =>
        intro hk hleft
        have hs := sound_sender smtp reconnect_attempts k fun j hj =>
          ih j hj (Nat.lt_trans (Nat.succ_lt_succ hj) hk)
        obtain ⟨c, hc, hnot⟩ :=
          handedTo_of_not_sound (n := reconnect_attempts) fun hsound =>
            (sound_send hs).mp hsound hleft
        exact hnot (h (k + 1) hk c hc)
  · intro h k hk c hc
    refine setUp_of_handedTo (sound_sender smtp reconnect_attempts k fun j hj => ?_) hc
    exact h j (Nat.lt_of_le_of_lt hj hk)

end MailConnection

end CortxCsm
