import Rpi4Hal.Bluetooth.Invariant

/-! The device lifecycle over every run of the HAL. The state between two steps is
`READY` or `ONE_CLIENT`; a session, an `H4Protocol` and the one open descriptor exist
together; the watcher, whose callback goes through `mH4`, runs only while there is an
`H4Protocol`; and `send` writes to the device exactly when a session is open and the
packet is not empty. A device disconnect does not end the session: it only stops the
watcher, and the session stays open until a `close`. -/

namespace Rpi4Hal.Bluetooth.BluetoothHci

variable {s : BluetoothHci}

/-- `send` from a state satisfying the invariant: it writes the packet to the session's
descriptor exactly when the packet is not empty and a session is open, and changes
nothing. -/
theorem Inv.step_send (hi : Inv s) (type : PacketType) (v : List UInt8) :
    step s (.send type v) = .ok ⟨s,
      if v = [] then .fromExceptionCode .EX_ILLEGAL_ARGUMENT
      else if s.mState = .ONE_CLIENT then .ok else .fromExceptionCode .EX_ILLEGAL_STATE,
      if v ≠ [] ∧ s.mState = .ONE_CLIENT then [.send s.mFd type v] else []⟩ := by
  rcases hi.state with hs | hs
  · cases v <;> simp [step, send, sendLocked, (hi.ready hs).1, hs]
  · cases v <;> simp [step, send, sendLocked, (hi.live hs).h4, hs]

/-- What holds of the device between two steps of a run. -/
structure Lifecycle (s : BluetoothHci) : Prop where
  state : s.mState = .READY ∨ s.mState = .ONE_CLIENT
  h4 : s.mState = .ONE_CLIENT ↔ s.mH4.isSome
  descriptor : s.mState = .ONE_CLIENT ↔ s.mFd ∈ s.openFds
  atMostOne : s.openFds = [] ∨ s.openFds = [s.mFd]
  watcher : s.watched.isSome → s.mH4.isSome
  send : ∀ type v, step s (.send type v) = .ok ⟨s,
    if v = [] then .fromExceptionCode .EX_ILLEGAL_ARGUMENT
    else if s.mState = .ONE_CLIENT then .ok else .fromExceptionCode .EX_ILLEGAL_STATE,
    if v ≠ [] ∧ s.mState = .ONE_CLIENT then [.send s.mFd type v] else []⟩
  noSecondOpen : s.mState ≠ .READY →
    ∀ cb o d r, step s (.init cb o d) = .ok r → ∀ fd ∈ r.hal.openFds, fd ∈ s.openFds

/-- For every run of `initialize`, `close`, `send`, client deaths and watcher events,
with any outcome of `openHci` and of the callbacks, every state reached satisfies
`Lifecycle`. -/
theorem session_lifecycle (h : Reachable s) : Lifecycle s := by
  have hi := h.inv
  refine ⟨hi.state, ⟨fun hs => by simp [(hi.live hs).h4], fun h4 => ?_⟩,
    ⟨fun hs => by simp [(hi.live hs).openFds], fun hm => ?_⟩,
    hi.state.imp (fun hs => (hi.ready hs).2.2) (fun hs => (hi.live hs).openFds),
    fun hw => ?_, hi.step_send, fun hne cb o d r hr fd hfd => ?_⟩
  · exact hi.state.resolve_left fun hs => by simp [(hi.ready hs).1] at h4
  · exact hi.state.resolve_left fun hs => by simp [(hi.ready hs).2.2] at hm
  · rcases hi.state with hs | hs
    · simp [(hi.ready hs).2.1] at hw
    · simp [(hi.live hs).h4]
  · have k := hi.stepKind hr
    generalize r.hal = s' at k hfd
    cases k with
    | same => exact hfd
    | closeSession hs _ => simp [BluetoothHci.closed, (hi.live hs).openFds] at hfd
    | openFailed _ _ _ hs _ => exact absurd hs hne
    | openSession _ _ _ hs _ _ => exact absurd hs hne

theorem session_lifecycle_after_init :
    ∃ s, run initial [.init (some ⟨1⟩) 3 true] = .ok s ∧ Lifecycle s :=
  ⟨_, rfl, session_lifecycle (Reachable.of_run [.init (some ⟨1⟩) 3 true] .initial rfl)⟩

/-! ### A device disconnect -/

/-- What a device disconnect does, and what it is the only step to do: the watcher
stops, the session stays, `send` keeps writing to its descriptor, and only a `close`, a
later `initialize` or the death of the session's client ends it. -/
structure DisconnectStopsWatcherOnly (s : BluetoothHci) : Prop where
  watched : s.mState = .ONE_CLIENT → s.watched = some s.mFd ∨ s.watched = none
  disconnect : s.watched.isSome → step s .disconnected = .ok ⟨stopWatching s, .ok, []⟩
  only : ∀ op r, s.mState = .ONE_CLIENT → s.watched.isSome → step s op = .ok r →
    r.hal.mState = .ONE_CLIENT → r.hal.watched = none → op = .disconnected
  writes : s.mState = .ONE_CLIENT → s.mFd ∈ s.openFds ∧
    ∀ type v, v ≠ [] → step s (.send type v) = .ok ⟨s, .ok, [.send s.mFd type v]⟩
  ends : ∀ op r, s.mState = .ONE_CLIENT → step s op = .ok r → r.hal.mState ≠ .ONE_CLIENT →
    op = .close ∨ (∃ c o d, op = .init (some c) o d) ∨ ∃ x, op = .clientDied x ∧ s.mCb = some x

/-- The steps that take a session out of `ONE_CLIENT`. -/
theorem StepKind.ends {op : Op} {s' : BluetoothHci} (k : StepKind s op s')
    (hs : s.mState = .ONE_CLIENT) (hs' : s'.mState ≠ .ONE_CLIENT) :
    op = .close ∨ (∃ c o d, op = .init (some c) o d) ∨ ∃ x, op = .clientDied x ∧ s.mCb = some x := by
  cases k with
  | closeSession _ hop => exact hop.imp_right .inl
  | openFailed _ _ _ h' | openSession _ _ _ h' => simp [hs] at h'
  | sessionClientDied x _ hx => exact .inr (.inr ⟨x, rfl, hx⟩)
  | otherClientDied => split at hs' <;> exact absurd hs hs'
  | same | disconnected => exact absurd hs hs'

theorem disconnect_only_stops_watcher (h : Reachable s) : DisconnectStopsWatcherOnly s := by
  have hi := h.inv
  refine ⟨fun hs => (hi.live hs).watched, fun hw => ?_, fun op r hs hw hr hs' hw' => ?_,
    fun hs => ⟨(hi.live hs).openFds ▸ List.mem_singleton_self _, fun type v hv => ?_⟩,
    fun op r hs hr hs' => (hi.stepKind hr).ends hs hs'⟩
  · have hs : s.mState = .ONE_CLIENT :=
      hi.state.resolve_left fun hs => by simp [(hi.ready hs).2.1] at hw
    simp [step, hw, disconnected, (hi.live hs).h4, Except.map]
  · have k := hi.stepKind hr
    generalize r.hal = s' at k hs' hw'
    cases k with
    | same => simp [hw'] at hw
    | closeSession => cases hs'
    | openFailed _ _ _ h' => simp [hs] at h'
    | openSession _ _ _ h' => simp [hs] at h'
    | sessionClientDied => cases hs'
    | otherClientDied => split at hw' <;> simp at hw' <;> simp [hw'] at hw
    | disconnected => rfl
  · rw [hi.step_send, if_neg hv, if_pos hs, if_pos ⟨hv, hs⟩]

theorem disconnect_only_stops_watcher_after_init :
    ∃ s, run initial [.init (some ⟨1⟩) 3 true] = .ok s ∧ DisconnectStopsWatcherOnly s :=
  ⟨_, rfl, disconnect_only_stops_watcher
    (Reachable.of_run [.init (some ⟨1⟩) 3 true] .initial rfl)⟩

/-- After a disconnect the session is still `ONE_CLIENT`, its descriptor still open and
no longer watched, and `send` still writes to it. -/
theorem disconnect_leaves_session_open :
    ∃ s, run initial [.init (some ⟨1⟩) 3 true, .disconnected] = .ok s ∧
      s.mState = .ONE_CLIENT ∧ s.watched = none ∧ s.mH4 = some 3 ∧ 3 ∈ s.openFds ∧
      step s (.send .ACL_DATA [1]) = .ok ⟨s, .ok, [.send 3 .ACL_DATA [1]]⟩ :=
  ⟨_, rfl, rfl, rfl, rfl, by decide, rfl⟩

end Rpi4Hal.Bluetooth.BluetoothHci
