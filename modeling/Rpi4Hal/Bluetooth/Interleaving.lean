import Rpi4Hal.Bluetooth.Threads

/-! What holds over every interleaving of the HAL's threads. `mStateMutex` makes the
two transient states exclusive: at most one thread is between `initialize`'s two locked
sections on the path that took `INITIALIZING`, or between `close`'s two, and the HAL is
in the transient state exactly while it is there. A `close()` whose first section runs
in such an `initialize` window, whoever calls it (a client, a death notification, or
`initialize` on a state that was not `READY`), finds `INITIALIZING` and aborts the
process; every other `close()` takes its first step. `send` checks `mH4`, not `mState`:
the windows in which `initialize` has published `mH4` but not `ONE_CLIENT`, and `close`
has run `closeHci` but not cleared `mH4`, let a `send` write, in `close` to a released
descriptor. -/

namespace Rpi4Hal.Bluetooth

open BluetoothHci

/-- The transient state a thread holds: `INITIALIZING` between `initialize`'s locked
sections on the path that took it, `CLOSING` between `close`'s. -/
def Thread.mode : Thread → Option HalState
  | .init _ _ _ .enter => none
  | .init _ _ _ .complete => none
  | .init _ _ _ _ => some .INITIALIZING
  | .closing .enter _ => none
  | .closing _ _ => some .CLOSING
  | _ => none

theorem Thread.mode_transient {t : Thread} {st : HalState} (h : t.mode = some st) :
    st = .INITIALIZING ∨ st = .CLOSING := by
  unfold Thread.mode at h
  split at h <;> cases h <;> simp

@[simp] theorem Call.start_mode (call : Call) : call.start.mode = none := by
  cases call with
  | init cb o d => cases cb <;> rfl
  | _ => rfl

@[simp] theorem AfterClose.finish_mode (after : AfterClose) : after.finish.1.mode = none := by
  cases after <;> rfl

/-- One atomic step keeps the mode of its thread and the HAL's state, or takes a
transient state from `READY` or `ONE_CLIENT`, or gives one back. -/
theorem Thread.step_mode {t t' : Thread} {s s' : BluetoothHci} {es : List Effect}
    (h : t.step s = .ok (t', s', es)) :
    (t'.mode = t.mode ∧ s'.mState = s.mState) ∨
    (t.mode = none ∧ t'.mode = some s'.mState ∧
      (s.mState = .READY ∧ s'.mState = .INITIALIZING ∨ s.mState = .ONE_CLIENT ∧ s'.mState = .CLOSING)) ∨
    (t.mode ≠ none ∧ t'.mode = none ∧ (s'.mState = .READY ∨ s'.mState = .ONE_CLIENT)) := by
  cases t with
  | init c o d pc =>
    cases pc with
    | enter =>
      simp only [Thread.step, initStep, initEnter] at h
      by_cases hs : s.mState = .READY
      · simp [hs] at h
        obtain ⟨rfl, rfl, -⟩ := h
        exact .inr (.inl ⟨rfl, rfl, .inl ⟨hs, rfl⟩⟩)
      · simp [hs] at h
        obtain ⟨rfl, rfl, -⟩ := h
        exact .inl ⟨rfl, rfl⟩
    | setReady =>
      cases h
      exact .inr (.inr ⟨by simp [Thread.mode], rfl, .inl rfl⟩)
    | exit =>
      cases h
      exact .inr (.inr ⟨by simp [Thread.mode], rfl, .inr rfl⟩)
    | linkToDeath =>
      obtain ⟨s₁, hl, h⟩ := map_eq_ok h
      cases h
      unfold linkToDeath at hl
      split at hl <;> (try split at hl) <;> cases hl
      exact .inl ⟨rfl, rfl⟩
    | complete =>
      simp only [Thread.step, initStep] at h
      split at h
      · cases h
      · cases h
        cases d <;> exact .inl ⟨rfl, rfl⟩
    | openHci =>
      obtain ⟨-, ⟨⟩⟩ := initStep_openHci h
      exact .inl ⟨by split <;> rfl, by simp only [openHci]; split <;> rfl⟩
    | _ => cases h; exact .inl ⟨rfl, rfl⟩
  | closing pc after =>
    cases pc with
    | enter =>
      simp only [Thread.step, closeStep] at h
      split at h
      · cases h
      · cases h
        exact .inl ⟨after.finish_mode, rfl⟩
      · next s₁ hc =>
        cases h
        unfold closeEnter at hc
        split at hc
        · split at hc <;> cases hc
        · next hs =>
          cases hc
          exact .inr (.inl ⟨rfl, rfl, .inr ⟨not_not.mp hs, rfl⟩⟩)
    | closeHci =>
      obtain ⟨s₁, hc, h⟩ := map_eq_ok h
      cases h
      unfold closeHci at hc
      split at hc <;> cases hc
      exact .inl ⟨rfl, rfl⟩
    | exit =>
      cases h
      exact .inr (.inr ⟨by simp [Thread.mode], by simp, .inl rfl⟩)
    | stopWatching => cases h; exact .inl ⟨rfl, rfl⟩
  | send type v =>
    simp only [Thread.step] at h
    split at h <;> (cases h; exact .inl ⟨rfl, rfl⟩)
  | serviceDied pc =>
    cases pc with
    | check =>
      cases h
      exact .inl ⟨by split <;> rfl, rfl⟩
    | setHasDied => cases h; exact .inl ⟨rfl, rfl⟩
  | idle => cases h; exact .inl ⟨rfl, rfl⟩
  | done => cases h; exact .inl ⟨rfl, rfl⟩

theorem Thread.mode_update (f : Nat → Thread) (i : Nat) (t : Thread) (j : Nat) :
    (Function.update f i t j).mode = if j = i then t.mode else (f j).mode := by
  rw [Function.update_apply]
  split <;> rfl

namespace Process

variable {p p' : Process}

/-- At most one thread holds a transient state, the state it holds is the HAL's, and a
transient state of the HAL is held by a thread. -/
structure Exclusive (p : Process) : Prop where
  holder : ∀ i, (p.threads i).mode ≠ none →
    (p.threads i).mode = some p.hal.mState ∧ ∀ j, (p.threads j).mode ≠ none → j = i
  held : p.hal.mState = .INITIALIZING ∨ p.hal.mState = .CLOSING →
    ∃ i, (p.threads i).mode = some p.hal.mState

theorem exclusive_initial : Exclusive initial :=
  ⟨fun _ h => absurd rfl h, fun h => by rcases h with h | h <;> cases h⟩

theorem Exclusive.of_modes (hx : Exclusive p) (hs : p'.hal.mState = p.hal.mState)
    (ht : ∀ i, (p'.threads i).mode = (p.threads i).mode) : Exclusive p' := by
  refine ⟨fun i hi => ?_, fun h => ?_⟩
  · rw [ht] at hi ⊢
    rw [hs]
    exact ⟨(hx.holder i hi).1, fun j hj => (hx.holder i hi).2 j (ht j ▸ hj)⟩
  · rw [hs] at h ⊢
    obtain ⟨i, hi⟩ := hx.held h
    exact ⟨i, (ht i).trans hi⟩

/-- In `READY` or `ONE_CLIENT` no thread holds a transient state. -/
theorem Exclusive.no_holder (hx : Exclusive p)
    (h : p.hal.mState = .READY ∨ p.hal.mState = .ONE_CLIENT) (j : Nat) :
    (p.threads j).mode = none := by
  by_contra hj
  rcases Thread.mode_transient (hx.holder j hj).1 with hs | hs <;> rcases h with h | h <;>
    rw [h] at hs <;> cases hs

theorem Exclusive.run (hx : Exclusive p) {i : Nat} {t : Thread} {s : BluetoothHci} {es : List Effect}
    (h : (p.threads i).step p.hal = .ok (t, s, es)) :
    Exclusive { p with hal := s, threads := Function.update p.threads i t } := by
  rcases Thread.step_mode h with ⟨ht, hs⟩ | ⟨-, ht, hs⟩ | ⟨hne, ht, hs⟩
  · refine hx.of_modes hs fun j => ?_
    simp only [Thread.mode_update]
    split <;> simp_all
  · have hnone := hx.no_holder (hs.imp (·.1) (·.1))
    refine ⟨fun j hj => ?_, fun _ => ⟨i, by simp [Thread.mode_update, ht]⟩⟩
    have hji : j = i := by
      by_contra hji
      simp [Thread.mode_update, hji, hnone j] at hj
    subst hji
    refine ⟨by simp [Thread.mode_update, ht], fun k hk => ?_⟩
    by_contra hki
    simp [Thread.mode_update, hki, hnone k] at hk
  · have hnone : ∀ j, (Function.update p.threads i t j).mode = none := fun j => by
      rw [Thread.mode_update]
      split
      · exact ht
      · next hji => exact by_contra fun hj => hji ((hx.holder i hne).2 j hj)
    refine ⟨fun j hj => absurd (hnone j) hj, fun h' => ?_⟩
    rcases hs with hs | hs <;> rcases h' with h' | h' <;> simp only [hs] at h' <;> cases h'

theorem Exclusive.next (hx : Exclusive p) {e : Event} {es : List Effect}
    (h : p.next e = .ok (p', es)) : Exclusive p' := by
  cases e with
  | call i call =>
    simp only [Process.next] at h
    split at h <;> cases h
    · refine hx.of_modes rfl fun j => ?_
      simp only [Thread.mode_update, Call.start_mode]
      split <;> simp_all [Thread.mode]
    · exact hx
  | run i =>
    obtain ⟨⟨t, s, es⟩, hr, h⟩ := map_eq_ok h
    cases h
    exact hx.run hr
  | clientDied x => cases h; exact hx.of_modes rfl fun _ => rfl
  | deliver i =>
    simp only [Process.next] at h
    split at h <;> cases h
    · refine hx.of_modes rfl fun j => ?_
      simp only [Thread.mode_update]
      split <;> simp_all [Thread.mode]
    · exact hx
  | packetReady type v =>
    simp only [Process.next] at h
    split at h
    · obtain ⟨_, -, h⟩ := map_eq_ok h
      cases h
      exact hx
    · cases h; exact hx
  | disconnected =>
    simp only [Process.next] at h
    split at h
    · obtain ⟨s, hs, h⟩ := map_eq_ok h
      cases h
      unfold BluetoothHci.disconnected at hs
      split at hs <;> cases hs
      exact hx.of_modes rfl fun _ => rfl
    · cases h; exact hx

theorem Reachable.exclusive (h : Reachable p) : Exclusive p := by
  induction h with
  | initial => exact exclusive_initial
  | next _ hn ih => exact ih.next hn

/-! ### `close` during `initialize` -/

theorem closeEnter_ok {s : BluetoothHci} (h : s.mState ≠ .INITIALIZING) :
    ∃ r, closeEnter s = .ok r := by
  by_cases h1 : s.mState = .ONE_CLIENT <;> simp [closeEnter, h, h1]

/-- What the mutual exclusion gives a `close()` in an interleaving. -/
structure CloseInWindow (p : Process) : Prop where
  unique : ∀ i j, (p.threads i).mode ≠ none → (p.threads j).mode ≠ none → i = j
  initializing : p.hal.mState = .INITIALIZING ↔ ∃ i, (p.threads i).mode = some .INITIALIZING
  closing : p.hal.mState = .CLOSING ↔ ∃ i, (p.threads i).mode = some .CLOSING
  aborts : ∀ i after, p.threads i = .closing .enter after →
    (∃ j, (p.threads j).mode = some .INITIALIZING) → p.next (.run i) = .error "mState is INITIALIZING"
  proceeds : ∀ i after, p.threads i = .closing .enter after →
    (¬∃ j, (p.threads j).mode = some .INITIALIZING) → ∃ r, p.next (.run i) = .ok r

theorem Exclusive.holds_iff (hx : Exclusive p) (st : HalState)
    (hst : st = .INITIALIZING ∨ st = .CLOSING) :
    p.hal.mState = st ↔ ∃ i, (p.threads i).mode = some st := by
  refine ⟨fun h => h ▸ hx.held (h ▸ hst), fun ⟨i, hi⟩ => ?_⟩
  have := (hx.holder i (by simp [hi])).1
  rw [hi] at this
  exact (Option.some.inj this).symm

/-- In every interleaving, a `close()` whose first locked section runs while an
`initialize` is between its two aborts the process, and any other takes its step. -/
theorem close_aborts_only_in_initialize_window (h : Reachable p) : CloseInWindow p := by
  have hx := h.exclusive
  have hinit := hx.holds_iff .INITIALIZING (.inl rfl)
  refine ⟨fun i j hi hj => ((hx.holder i hi).2 j hj).symm, hinit, hx.holds_iff .CLOSING (.inr rfl),
    fun i after hi hw => ?_, fun i after hi hw => ?_⟩
  · simp [Process.next, hi, Thread.step, closeStep, closeEnter, hinit.mpr hw, Except.map]
  · obtain ⟨r, hr⟩ := closeEnter_ok fun hs => hw (hinit.mp hs)
    simp only [Process.next, hi, Thread.step, closeStep, hr]
    rcases r with _ | _ <;> exact ⟨_, rfl⟩

theorem close_aborts_only_in_initialize_window_after_enter :
    ∃ p, run initial [.call 0 (.init (some ⟨1⟩) 3 true), .run 0] = .ok p ∧ CloseInWindow p :=
  ⟨_, rfl, close_aborts_only_in_initialize_window
    (Reachable.of_run [.call 0 (.init (some ⟨1⟩) 3 true), .run 0] .initial rfl)⟩

/-- A client's `close()`, a second `initialize`, and the death of the initializing
client after its link was made, each during an `initialize`, abort the process. -/
theorem close_during_initialize_aborts :
    run initial [.call 0 (.init (some ⟨1⟩) 3 true), .run 0, .call 1 .close, .run 1] =
      .error "mState is INITIALIZING" ∧
    run initial [.call 0 (.init (some ⟨1⟩) 3 true), .run 0, .call 1 (.init (some ⟨2⟩) 4 true),
      .run 1, .run 1] = .error "mState is INITIALIZING" ∧
    run initial [.call 0 (.init (some ⟨1⟩) 3 true), .run 0, .run 0, .run 0, .run 0, .run 0,
      .clientDied ⟨1⟩, .deliver 1, .run 1, .run 1, .run 1] = .error "mState is INITIALIZING" :=
  ⟨rfl, rfl, rfl⟩

/-! ### `send` during `close` and `initialize` -/

/-- A `send` that runs after `close` released the descriptor writes to it while the HAL
is `CLOSING`; one that runs after `initialize` built the `H4Protocol` writes while the
HAL is `INITIALIZING`. -/
theorem send_writes_outside_session :
    (∃ p, run initial [.call 0 (.init (some ⟨1⟩) 3 true), .run 0, .run 0, .run 0, .run 0, .run 0,
        .run 0, .run 0, .run 0, .run 0, .call 1 .close, .run 1, .run 1, .run 1,
        .call 2 (.send .ACL_DATA [1])] = .ok p ∧
      p.hal.mState = .CLOSING ∧ 3 ∉ p.hal.openFds ∧
      ∃ p', p.next (.run 2) = .ok (p', [.send 3 .ACL_DATA [1]])) ∧
    (∃ p, run initial [.call 0 (.init (some ⟨1⟩) 3 true), .run 0, .run 0, .run 0, .run 0, .run 0,
        .run 0, .call 1 (.send .ACL_DATA [1])] = .ok p ∧
      p.hal.mState = .INITIALIZING ∧
      ∃ p', p.next (.run 1) = .ok (p', [.send 3 .ACL_DATA [1]])) :=
  ⟨⟨_, rfl, rfl, by decide, _, rfl⟩, ⟨_, rfl, rfl, _, rfl⟩⟩

end Process

end Rpi4Hal.Bluetooth
