import Rpi4Hal.Bluetooth.Invariant

/-! The death recipient over every run. While a session is open the recipient holds the
session's callback, and the death of a client tears the session down exactly when it is
the session's client; the death of any other client, the client of an earlier session
whose link is still registered included, leaves the session as it is.

Death links are never released: `close` never calls `UnlinkToDeath` (which only
compares two pointers), so each session that opened the device leaves its link behind,
and `has_died_` is never reset. -/

namespace Rpi4Hal.Bluetooth.BluetoothHci

variable {s s' : BluetoothHci} {op : Op}

/-- What a client's death does to the session. -/
structure DeathTearsDown (s : BluetoothHci) : Prop where
  recipient : s.mState = .ONE_CLIENT → s.deathCb = s.mCb
  died : ∀ x, ∃ s', step s (.clientDied x) = .ok ⟨s', .ok, []⟩ ∧
    if s.mState = .ONE_CLIENT ∧ s.mCb = some x then
      s'.mState = .READY ∧ s'.mH4 = none ∧ s'.watched = none ∧ s'.openFds = []
    else s'.session = s.session

theorem client_death_tears_down_iff (h : Reachable s) : DeathTearsDown s := by
  have hi := h.inv
  refine ⟨fun hs => ?_, fun x => ?_⟩
  · obtain ⟨c, hc, hd, -⟩ := (hi.live hs).client
    rw [hc, hd]
  · by_cases hx : s.mState = .ONE_CLIENT ∧ s.mCb = some x
    · refine ⟨_, by rw [step, hi.clientDied_session hx.1 hx.2]; rfl, ?_⟩
      simp [hx, BluetoothHci.closed, (hi.live hx.1).openFds]
    · refine ⟨_, by rw [step, hi.clientDied_other hx]; rfl, ?_⟩
      rw [if_neg hx]
      split <;> rfl

theorem client_death_tears_down_iff_after_init :
    ∃ s, run initial [.init (some ⟨1⟩) 3 true] = .ok s ∧ DeathTearsDown s :=
  ⟨_, rfl, client_death_tears_down_iff
    (Reachable.of_run [.init (some ⟨1⟩) 3 true] .initial rfl)⟩

/-! ### Links and `has_died_` -/

/-- A step keeps every link, and adds one exactly when `initialize` opened the device. -/
theorem StepKind.links (k : StepKind s op s') :
    s'.links = s.links ∨
      ∃ c o d, op = .init (some c) o d ∧ s.mState = .READY ∧ 0 ≤ o ∧ s'.links = c :: s.links := by
  cases k with
  | openSession c o d hs ho _ => exact .inr ⟨c, o, d, rfl, hs, ho, by cases d <;> rfl⟩
  | otherClientDied => exact .inl (by split <;> rfl)
  | _ => exact .inl rfl

/-- A step never clears `has_died_`. -/
theorem StepKind.hasDied (k : StepKind s op s') (h : s.hasDied = true) : s'.hasDied = true := by
  cases k with
  | openSession _ _ d => cases d <;> exact h
  | sessionClientDied => rfl
  | otherClientDied => split <;> first | rfl | exact h
  | _ => exact h

/-- An `initialize` from `READY` that opens the device adds its client's link. -/
theorem Inv.init_links (hi : Inv s) {c : Client} {o : Int} {d : Bool} {r : Reply}
    (hs : s.mState = .READY) (ho : 0 ≤ o) (h : step s (.init (some c) o d) = .ok r) :
    r.hal.links = c :: s.links := by
  rw [step] at h
  by_cases hc : c ∈ s.dead
  · rw [initialize_of_link_failed hs ho hc] at h
    cases h
  · rw [initialize_of_opened hs (hi.ready hs).2.2 ho hc, initComplete_opened] at h
    cases h
    cases d <;> rfl

/-- What the code keeps of the liveness monitor over a run. -/
structure LinksKept (s : BluetoothHci) : Prop where
  linked : s.mState = .ONE_CLIENT → ∃ c, s.mCb = some c ∧ c ∈ s.links
  hasDied : s.hasDied = true → ∃ c ∈ s.links, c ∈ s.dead
  opens : ∀ c o d r, s.mState = .READY → 0 ≤ o → step s (.init (some c) o d) = .ok r →
    r.hal.links = c :: s.links
  step : ∀ op r, step s op = .ok r →
    (r.hal.links = s.links ∨
      ∃ c o d, op = .init (some c) o d ∧ s.mState = .READY ∧ 0 ≤ o ∧ r.hal.links = c :: s.links) ∧
    (s.hasDied = true → r.hal.hasDied = true)

theorem death_links_never_released (h : Reachable s) : LinksKept s := by
  have hi := h.inv
  refine ⟨fun hs => ?_, hi.died, fun _ _ _ _ hs ho hr => hi.init_links hs ho hr,
    fun op r hr => ⟨(hi.stepKind hr).links, (hi.stepKind hr).hasDied⟩⟩
  obtain ⟨c, hc, hd, -⟩ := (hi.live hs).client
  exact ⟨c, hc, hi.linked c hd⟩

theorem death_links_never_released_after_init :
    ∃ s, run initial [.init (some ⟨1⟩) 3 true] = .ok s ∧ LinksKept s :=
  ⟨_, rfl, death_links_never_released
    (Reachable.of_run [.init (some ⟨1⟩) 3 true] .initial rfl)⟩

/-- A closed session leaves its link registered in `READY`; after the death of the first
client a second session holds two links, and `has_died_` is set although its client is
alive. -/
theorem death_links_outlive_sessions :
    (∃ s, run initial [.init (some ⟨1⟩) 3 true, .close] = .ok s ∧
      s.mState = .READY ∧ s.links = [⟨1⟩]) ∧
    (∃ s, run initial [.init (some ⟨1⟩) 3 true, .clientDied ⟨1⟩, .init (some ⟨2⟩) 4 true] = .ok s ∧
      s.mState = .ONE_CLIENT ∧ s.links = [⟨2⟩, ⟨1⟩] ∧ s.hasDied = true ∧ ⟨2⟩ ∉ s.dead) :=
  ⟨⟨_, rfl, rfl, rfl⟩, ⟨_, rfl, rfl, rfl, rfl, by decide⟩⟩

end Rpi4Hal.Bluetooth.BluetoothHci
