import Rpi4Hal.Bluetooth.Session

/-! The session invariant of the HAL run one call at a time. Between two steps of any
run, the state is `READY` with no `H4Protocol`, no watcher and no open descriptor, or
`ONE_CLIENT` with exactly the session's descriptor open, the `H4Protocol` and the
management object on it, and the session's client linked and alive. Each call keeps
it, whatever its external steps did; the death recipient always holds a linked
client, and `has_died_` is set only after a linked client died. -/

namespace Rpi4Hal.Bluetooth

namespace BluetoothHci

variable {s : BluetoothHci} {c x : Client} {fd : Int}

/-- A live session on descriptor `mFd`. -/
structure Live (s : BluetoothHci) : Prop where
  h4 : s.mH4 = some s.mFd
  management : s.management = some ⟨s.mFd⟩
  openFds : s.openFds = [s.mFd]
  watched : s.watched = some s.mFd ∨ s.watched = none
  client : ∃ c, s.mCb = some c ∧ s.deathCb = some c ∧ c ∉ s.dead

/-- The session invariant. -/
structure Inv (s : BluetoothHci) : Prop where
  state : s.mState = .READY ∨ s.mState = .ONE_CLIENT
  ready : s.mState = .READY → s.mH4 = none ∧ s.watched = none ∧ s.openFds = []
  live : s.mState = .ONE_CLIENT → Live s
  linked : ∀ c, s.deathCb = some c → c ∈ s.links
  died : s.hasDied = true → ∃ c ∈ s.links, c ∈ s.dead

theorem inv_initial : Inv initial where
  state := .inl rfl
  ready _ := ⟨rfl, rfl, rfl⟩
  live h := by cases h
  linked _ h := by cases h
  died h := by cases h

/-! ### `close` -/

theorem Inv.close_live (hi : Inv s) (h : s.mState = .ONE_CLIENT) :
    close s = .ok (closed s s.mFd) :=
  close_of_oneClient h (hi.live h).management

theorem Inv.closed_inv (hi : Inv s) (h : s.mState = .ONE_CLIENT) : Inv (closed s s.mFd) where
  state := .inl rfl
  ready _ := ⟨rfl, rfl, by simp [BluetoothHci.closed, (hi.live h).openFds]⟩
  live h' := by cases h'
  linked := hi.linked
  died := hi.died

/-! ### A client's death -/

theorem serviceDied_of_detected (h : s.deathDetected = true) :
    serviceDied s = close (setHasDied s) :=
  if_pos h

theorem serviceDiedTimes_of_fixed (h : serviceDied s = .ok s) (n : Nat) :
    serviceDiedTimes n s = .ok s := by
  induction n with
  | zero => rfl
  | succ n ih => rw [serviceDiedTimes, h]; exact ih

theorem serviceDiedTimes_ready (h : s.mState = .READY) (n : Nat) :
    serviceDiedTimes n s = .ok (if 0 < n ∧ s.deathDetected then setHasDied s else s) := by
  cases n with
  | zero => simp [serviceDiedTimes]
  | succ n =>
    cases hd : s.deathDetected
    · simpa [hd] using serviceDiedTimes_of_fixed (by simp [serviceDied, hd]) (n + 1)
    · have hfix : serviceDied (setHasDied s) = .ok (setHasDied s) :=
        (serviceDied_of_detected (s := setHasDied s) hd).trans (close_of_ready h)
      rw [serviceDiedTimes, serviceDied_of_detected hd, close_of_ready (s := setHasDied s) h,
        if_pos ⟨n.succ_pos, rfl⟩]
      exact serviceDiedTimes_of_fixed hfix n

/-- The death of the session's client tears the session down. -/
theorem Inv.clientDied_session (hi : Inv s) (h : s.mState = .ONE_CLIENT) (hx : s.mCb = some x) :
    clientDied x s = .ok (closed (setHasDied { s with dead := x :: s.dead }) s.mFd) := by
  obtain ⟨c, hc, hd, -⟩ := (hi.live h).client
  obtain rfl : c = x := Option.some.inj (hc.symm.trans hx)
  obtain ⟨n, hn⟩ := Nat.exists_eq_succ_of_ne_zero (List.count_pos_iff.mpr (hi.linked c hd)).ne'
  have hdet : deathDetected { s with dead := c :: s.dead } = true := by simp [deathDetected, hd]
  have hfirst : serviceDied { s with dead := c :: s.dead } =
      .ok (closed (setHasDied { s with dead := c :: s.dead }) s.mFd) :=
    (serviceDied_of_detected hdet).trans
      (close_of_oneClient (s := setHasDied { s with dead := c :: s.dead }) h (hi.live h).management)
  have hfix : serviceDied (closed (setHasDied { s with dead := c :: s.dead }) s.mFd) =
      .ok (closed (setHasDied { s with dead := c :: s.dead }) s.mFd) :=
    (serviceDied_of_detected
      (s := closed (setHasDied { s with dead := c :: s.dead }) s.mFd) hdet).trans (close_of_ready rfl)
  rw [clientDied, hn, serviceDiedTimes, hfirst]
  exact serviceDiedTimes_of_fixed hfix n

/-- The death of any other client changes no part of the session. -/
theorem Inv.clientDied_other (hi : Inv s) (h : ¬(s.mState = .ONE_CLIENT ∧ s.mCb = some x)) :
    clientDied x s = .ok (if 0 < s.links.count x ∧ deathDetected { s with dead := x :: s.dead }
      then setHasDied { s with dead := x :: s.dead } else { s with dead := x :: s.dead }) := by
  rcases hi.state with hs | hs
  · exact serviceDiedTimes_ready (s := { s with dead := x :: s.dead }) hs _
  · obtain ⟨c, hc, hd, hcd⟩ := (hi.live hs).client
    have hcx : c ≠ x := fun e => h ⟨hs, e ▸ hc⟩
    have hdet : deathDetected { s with dead := x :: s.dead } = false := by
      simp [deathDetected, hd, hcx, hcd]
    rw [clientDied, serviceDiedTimes_of_fixed (by simp [serviceDied, hdet])]
    simp [hdet]

/-! ### `initialize` -/

theorem Inv.opened_inv (hi : Inv s) (hc : c ∉ s.dead) : Inv (opened s c fd) where
  state := .inr rfl
  ready h := by cases h
  live _ := ⟨rfl, rfl, rfl, .inl rfl, c, rfl, rfl, hc⟩
  linked _ h := Option.some.inj h ▸ List.mem_cons_self _ _
  died h := by
    obtain ⟨c', h₁, h₂⟩ := hi.died h
    exact ⟨c', List.mem_cons_of_mem _ h₁, h₂⟩

theorem Inv.markDead (hi : Inv s) (hx : ¬(s.mState = .ONE_CLIENT ∧ s.mCb = some x)) :
    Inv { s with dead := x :: s.dead } where
  state := hi.state
  ready := hi.ready
  live h' := by
    obtain ⟨h4, hm, hf, hw, c, hc, hd, hcd⟩ := hi.live h'
    refine ⟨h4, hm, hf, hw, c, hc, hd, ?_⟩
    simp only [List.mem_cons, not_or]
    exact ⟨fun e => hx ⟨h', e ▸ hc⟩, hcd⟩
  linked := hi.linked
  died h' := by
    obtain ⟨c, h₁, h₂⟩ := hi.died h'
    exact ⟨c, h₁, List.mem_cons_of_mem _ h₂⟩

theorem Inv.setHasDied_inv (hi : Inv s) (hdet : s.deathDetected = true) : Inv (setHasDied s) where
  state := hi.state
  ready := hi.ready
  live h' := let l := hi.live h'; ⟨l.h4, l.management, l.openFds, l.watched, l.client⟩
  linked := hi.linked
  died _ := by
    unfold deathDetected at hdet
    split at hdet
    · next d hd => exact ⟨d, hi.linked d hd, of_decide_eq_true hdet⟩
    · cases hdet

/-! ### What one step does -/

/-- The forms a step from a state satisfying the invariant can take. -/
inductive StepKind (s : BluetoothHci) : Op → BluetoothHci → Prop where
  | same {op : Op} : StepKind s op s
  | closeSession {op : Op} : s.mState = .ONE_CLIENT →
      (op = .close ∨ ∃ c o d, op = .init (some c) o d) → StepKind s op (closed s s.mFd)
  | openFailed (c : Client) (o : Int) (d : Bool) : s.mState = .READY → o < 0 →
      StepKind s (.init (some c) o d) { s with mCb := some c, mFd := o, management := none }
  | openSession (c : Client) (o : Int) (d : Bool) : s.mState = .READY → 0 ≤ o → c ∉ s.dead →
      StepKind s (.init (some c) o d) (if d then opened s c o else closed (opened s c o) o)
  | sessionClientDied (x : Client) : s.mState = .ONE_CLIENT → s.mCb = some x →
      StepKind s (.clientDied x) (closed (setHasDied { s with dead := x :: s.dead }) s.mFd)
  | otherClientDied (x : Client) : ¬(s.mState = .ONE_CLIENT ∧ s.mCb = some x) →
      StepKind s (.clientDied x) (if 0 < s.links.count x ∧ deathDetected { s with dead := x :: s.dead }
        then setHasDied { s with dead := x :: s.dead } else { s with dead := x :: s.dead })
  | disconnected : s.watched.isSome → (∃ fd, s.mH4 = some fd) →
      StepKind s .disconnected (stopWatching s)

theorem Inv.stepKind (hi : Inv s) {op : Op} {r : Reply} (h : step s op = .ok r) :
    StepKind s op r.hal := by
  cases op with
  | init cb o d =>
    rw [step] at h
    cases cb with
    | none => cases h; exact .same
    | some c =>
      rcases hi.state with hs | hs
      · have hf := (hi.ready hs).2.2
        by_cases ho : o < 0
        · rw [initialize_of_open_failed hs hf ho] at h
          cases h
          exact .openFailed c o d hs ho
        · replace ho := Int.not_lt.mp ho
          by_cases hc : c ∈ s.dead
          · rw [initialize_of_link_failed hs ho hc] at h
            cases h
          · rw [initialize_of_opened hs hf ho hc, initComplete_opened] at h
            cases h
            cases d <;> exact .openSession c o _ hs ho hc
      · rw [initialize_of_ne_ready (by simp [hs]), hi.close_live hs] at h
        cases h
        exact .closeSession hs (.inr ⟨c, o, d, rfl⟩)
  | close =>
    obtain ⟨s', hs', rfl⟩ := map_eq_ok h
    rcases hi.state with h' | h'
    · rw [close_of_ready h'] at hs'
      cases hs'
      exact .same
    · rw [hi.close_live h'] at hs'
      cases hs'
      exact .closeSession h' (.inl rfl)
  | send type v => cases h; exact .same
  | clientDied x =>
    obtain ⟨s', hs', rfl⟩ := map_eq_ok h
    by_cases hx : s.mState = .ONE_CLIENT ∧ s.mCb = some x
    · rw [hi.clientDied_session hx.1 hx.2] at hs'
      cases hs'
      exact .sessionClientDied x hx.1 hx.2
    · rw [hi.clientDied_other hx] at hs'
      cases hs'
      exact .otherClientDied x hx
  | packetReady type v =>
    rw [step] at h
    split at h
    · obtain ⟨_, -, rfl⟩ := map_eq_ok h
      exact .same
    · cases h
      exact .same
  | disconnected =>
    rw [step] at h
    split at h
    · next hw =>
      obtain ⟨s', hs', rfl⟩ := map_eq_ok h
      unfold disconnected at hs'
      split at hs'
      · cases hs'
      · next fd hfd =>
        cases hs'
        exact .disconnected hw ⟨fd, hfd⟩
    · cases h
      exact .same

theorem StepKind.inv (hi : Inv s) {op : Op} {s' : BluetoothHci} (k : StepKind s op s') :
    Inv s' := by
  cases k with
  | same => exact hi
  | closeSession hs _ => exact hi.closed_inv hs
  | openFailed c o d hs _ => exact ⟨.inl hs, fun _ => hi.ready hs, fun h' => by simp_all, hi.linked, hi.died⟩
  | openSession c o d _ _ hc =>
    cases d
    · exact (hi.opened_inv hc).closed_inv rfl
    · exact hi.opened_inv hc
  | sessionClientDied x hs hx =>
    obtain ⟨c, hc, hd, -⟩ := (hi.live hs).client
    obtain rfl : c = x := Option.some.inj (hc.symm.trans hx)
    exact ⟨.inl rfl, fun _ => ⟨rfl, rfl, by simp [BluetoothHci.closed, (hi.live hs).openFds]⟩,
      fun h' => (by cases h'), hi.linked, fun _ => ⟨c, hi.linked c hd, List.mem_cons_self _ _⟩⟩
  | otherClientDied x hx =>
    split
    · next hc => exact (hi.markDead hx).setHasDied_inv hc.2
    · exact hi.markDead hx
  | disconnected _ _ =>
    refine ⟨hi.state, fun h' => ⟨(hi.ready h').1, rfl, (hi.ready h').2.2⟩, fun h' => ?_,
      hi.linked, hi.died⟩
    obtain ⟨h4, hm, hf, -, hc⟩ := hi.live h'
    exact ⟨h4, hm, hf, .inr rfl, hc⟩

/-- Every state a run reaches satisfies the session invariant. -/
theorem Reachable.inv (h : Reachable s) : Inv s := by
  induction h with
  | initial => exact inv_initial
  | step _ hs ih => exact (ih.stepKind hs).inv ih

end BluetoothHci

end Rpi4Hal.Bluetooth
