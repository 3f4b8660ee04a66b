import Rpi4Hal.Bluetooth.Interleaving

/-! Safety of the HAL over every interleaving of its threads. Each statement of
`initialize` and `close` relies on what the statements before it set up, and no other
thread undoes it in between: the thread holds a transient state (`Exclusive`), and a
thread that holds none touches only `mState` and the death recipient. `Thread.Safe` says
what a thread finds before each statement, `HalSafe` what holds between any two steps.
From them: the process aborts only through three checks of the code; the HAL holds at
most one descriptor, owned by `management_`; a packet is written only to `mFd`, and to a
released descriptor only while a `close()` runs; and the completion callback, read from
`mCb` after `ONE_CLIENT` is published, can reach another client. -/

namespace Rpi4Hal.Bluetooth

open BluetoothHci

/-! ### What each thread and the HAL rely on -/

/-- What a thread about to run each statement of `initialize` finds in the HAL. -/
def InitPc.Safe : InitPc → BluetoothHci → Prop
  | .enter, _ => True
  | .setCb, s => s.mH4 = none
  | .resetManagement, s => s.mCb.isSome ∧ s.mH4 = none
  | .openHci, s => s.mCb.isSome ∧ s.mH4 = none ∧ s.openFds = [] ∧ s.management.isSome
  | .dropManagement, s => s.mCb.isSome ∧ s.mH4 = none ∧ s.openFds = []
  | .setReady, s => s.mH4 = none ∧ s.openFds = []
  | .linkToDeath, s => s.mCb.isSome ∧ s.mH4 = none ∧ s.openFds = [s.mFd] ∧ 0 ≤ s.mFd
  | .makeH4, s => s.mCb.isSome ∧ s.mH4 = none ∧ s.openFds = [s.mFd] ∧ 0 ≤ s.mFd
  | .watch, s => s.mCb.isSome ∧ s.mH4.isSome ∧ s.management.isSome
  | .exit, s => s.mCb.isSome ∧ s.management.isSome
  | .complete, s => s.mCb.isSome

/-- What a thread about to run each statement of `close` finds in the HAL. -/
def ClosePc.Safe : ClosePc → BluetoothHci → Prop
  | .enter, _ => True
  | .stopWatching, s => s.management.isSome
  | .closeHci, s => s.management.isSome ∧ s.watched = none
  | .exit, s => s.watched = none ∧ s.openFds = []

/-- What a thread finds in the HAL before its next step. -/
def Thread.Safe : Thread → BluetoothHci → Prop
  | .init _ _ _ pc, s => pc.Safe s
  | .closing pc _, s => pc.Safe s
  | _, _ => True

/-- What holds of the HAL between any two steps of any interleaving. -/
structure HalSafe (s : BluetoothHci) : Prop where
  fds : s.openFds = [] ∨ ∃ fd, s.openFds = [fd] ∧ s.management = some ⟨fd⟩
  h4 : ∀ fd, s.mH4 = some fd → fd = s.mFd ∧ 0 ≤ fd ∧ (fd ∈ s.openFds ∨ s.mState = .CLOSING)
  ready : s.mState = .READY → s.mH4 = none ∧ s.openFds = []
  watched : s.watched.isSome → s.mH4.isSome ∧ s.mCb.isSome
  oneClient : s.mState = .ONE_CLIENT → s.management.isSome

/-- `s'` keeps every field a thread's facts read, except that the watcher may stop. -/
structure Agree (s s' : BluetoothHci) : Prop where
  mCb : s'.mCb = s.mCb
  mFd : s'.mFd = s.mFd
  management : s'.management = s.management
  mH4 : s'.mH4 = s.mH4
  openFds : s'.openFds = s.openFds
  watched : s'.watched = s.watched ∨ s'.watched = none

section
variable {s s' : BluetoothHci}

/-! ### Steps outside the transient states -/

/-- How a step that holds no transient state may change `mState`. -/
def QuietState (s s' : BluetoothHci) : Prop :=
  s'.mState = s.mState ∨ s.mState = .READY ∧ s'.mState = .INITIALIZING ∨
    s.mState = .ONE_CLIENT ∧ s'.mState = .CLOSING

theorem HalSafe.of_agree (hs : HalSafe s) (ha : Agree s s') (hm : QuietState s s') : HalSafe s' := by
  have hw : s'.watched.isSome → s'.watched = s.watched := fun h => by
    rcases ha.watched with hw | hw
    · exact hw
    · simp [hw] at h
  refine ⟨?_, fun fd hf => ?_, fun h => ?_, fun h => ?_, fun h => ?_⟩
  · rw [ha.openFds, ha.management]; exact hs.fds
  · obtain ⟨h1, h2, h3⟩ := hs.h4 fd (ha.mH4 ▸ hf)
    refine ⟨ha.mFd ▸ h1, h2, ha.openFds ▸ ?_⟩
    rcases hm with hm | ⟨hm, -⟩ | ⟨-, hm⟩
    · exact hm ▸ h3
    · exact .inl (h3.resolve_right (by rw [hm]; decide))
    · exact .inr hm
  · rw [ha.mH4, ha.openFds]
    rcases hm with hm | ⟨-, hm⟩ | ⟨-, hm⟩ <;> rw [hm] at h <;> first | exact hs.ready h | cases h
  · rw [ha.mH4, ha.mCb]; exact hs.watched (hw h ▸ h)
  · rcases hm with hm | ⟨-, hm⟩ | ⟨-, hm⟩ <;> rw [hm] at h <;>
      first | exact ha.management ▸ hs.oneClient h | cases h

theorem Thread.Safe.of_agree {t : Thread} (ht : t.Safe s) (ha : Agree s s') : t.Safe s' := by
  have hw : s.watched = none → s'.watched = none := fun h => by rcases ha.watched with hw | hw <;> simp [hw, h]
  cases t with
  | init c o d pc =>
    cases pc <;> simp only [Thread.Safe, InitPc.Safe, ha.mCb, ha.mFd, ha.management, ha.mH4, ha.openFds] at ht ⊢ <;>
      exact ht
  | closing pc after =>
    cases pc <;> simp only [Thread.Safe, ClosePc.Safe, ha.management, ha.openFds] at ht ⊢
    · exact ht
    · exact ⟨ht.1, hw ht.2⟩
    · exact ⟨hw ht.1, ht.2⟩
  | _ => trivial

/-- The facts of a thread outside the transient states only ask for a callback. -/
theorem Thread.Safe.of_mode_none {t : Thread} (hm : t.mode = none) (ht : t.Safe s)
    (hc : s.mCb.isSome → s'.mCb.isSome) : t.Safe s' := by
  cases t with
  | init c o d pc => cases pc <;> first | trivial | exact hc ht
  | closing pc after => cases pc <;> trivial
  | _ => trivial

theorem HalSafe.closeMgmt_eq_nil (hs : HalSafe s) : closeMgmt s.management s.openFds = [] := by
  rcases hs.fds with h | ⟨fd, h, hm⟩
  · rw [h, closeMgmt_nil]
  · rw [h, hm]; simp [closeMgmt]

theorem HalSafe.management_of_mem (hs : HalSafe s) {fd : Int} (h : fd ∈ s.openFds) :
    s.management = some ⟨fd⟩ := by
  rcases hs.fds with hf | ⟨fd', hf, hm⟩
  · simp [hf] at h
  · rw [hf, List.mem_singleton] at h
    rw [h, hm]

theorem Agree.refl (s : BluetoothHci) : Agree s s := ⟨rfl, rfl, rfl, rfl, rfl, .inl rfl⟩

/-- A step of a thread that holds no transient state touches nothing a thread's facts
read, and changes the state only by taking a transient one. -/
theorem Thread.step_quiet {t t' : Thread} {es : List Effect} (hq : t.mode = none)
    (h : t.step s = .ok (t', s', es)) : Agree s s' ∧ QuietState s s' := by
  refine ⟨?_, ?_⟩
  · cases t with
    | init c o d pc =>
      cases pc with
      | enter =>
        simp only [Thread.step, initStep, initEnter] at h
        split_ifs at h <;> cases h <;> exact ⟨rfl, rfl, rfl, rfl, rfl, .inl rfl⟩
      | complete =>
        simp only [Thread.step, initStep] at h
        split at h <;> cases h
        exact Agree.refl s
      | _ => cases hq
    | closing pc after =>
      cases pc with
      | enter =>
        simp only [Thread.step, closeStep] at h
        split at h <;> cases h
        · exact Agree.refl s
        · next hc =>
          unfold closeEnter at hc
          split_ifs at hc <;> cases hc
          exact ⟨rfl, rfl, rfl, rfl, rfl, .inl rfl⟩
      | _ => cases hq
    | send type v =>
      simp only [Thread.step] at h
      split at h <;> cases h <;> exact Agree.refl s
    | serviceDied pc => cases pc <;> cases h <;> exact ⟨rfl, rfl, rfl, rfl, rfl, .inl rfl⟩
    | _ => cases h; exact Agree.refl s
  · rcases Thread.step_mode h with ⟨-, hst⟩ | ⟨-, -, hst⟩ | ⟨hne, -⟩
    · exact .inl hst
    · exact .inr hst
    · exact absurd hq hne

/-! ### One step of a thread -/

theorem linkToDeath_ok (h : linkToDeath s = .ok s') :
    ∃ c, s.mCb = some c ∧ s' = { s with deathCb := some c, links := c :: s.links } := by
  unfold linkToDeath at h
  split at h <;> (try split at h) <;> cases h
  exact ⟨_, ‹_›, rfl⟩

theorem closeHci_ok (h : closeHci s = .ok s') :
    ∃ m, s.management = some m ∧
      s' = { s with management := some ⟨-1⟩, openFds := s.openFds.erase m.btFd } := by
  unfold closeHci at h
  split at h <;> cases h
  exact ⟨_, ‹_›, rfl⟩

@[simp] theorem AfterClose.finish_safe (after : AfterClose) : after.finish.1.Safe s := by
  cases after <;> trivial

/-- One step of a thread keeps the invariant and the thread's own facts, from a HAL in
whose transient state the thread is, if it is in one. -/
theorem Thread.step_safe {t t' : Thread} {es : List Effect} (hs : HalSafe s) (ht : t.Safe s)
    (hm : ∀ st, t.mode = some st → s.mState = st) (h : t.step s = .ok (t', s', es)) :
    HalSafe s' ∧ t'.Safe s' := by
  cases t with
  | init c o d pc =>
    cases pc with
    | enter =>
      obtain ⟨ha, hq⟩ := Thread.step_quiet (by rfl) h
      refine ⟨hs.of_agree ha hq, ?_⟩
      simp only [Thread.step, initStep, initEnter] at h
      by_cases hr : s.mState = .READY
      · simp [hr] at h
        obtain ⟨rfl, rfl, -⟩ := h
        exact (hs.ready hr).1
      · simp [hr] at h
        obtain ⟨rfl, rfl, -⟩ := h
        trivial
    | setCb =>
      cases h
      exact ⟨⟨hs.fds, hs.h4, hs.ready, fun hw => ⟨(hs.watched hw).1, rfl⟩, hs.oneClient⟩, rfl, ht⟩
    | resetManagement =>
      cases h
      have hn := hs.closeMgmt_eq_nil
      exact ⟨⟨.inl hn, fun _ hf => (nomatch ht.2.symm.trans hf), fun _ => ⟨ht.2, hn⟩, hs.watched,
        fun _ => rfl⟩, ht.1, ht.2, hn, rfl⟩
    | openHci =>
      obtain ⟨-, ⟨⟩⟩ := initStep_openHci h
      have hst := hm _ rfl
      by_cases ho : o < 0
      · simp only [openHci, if_pos ho]
        exact ⟨⟨hs.fds, fun _ hf => (nomatch ht.2.1.symm.trans hf), hs.ready, hs.watched, hs.oneClient⟩,
          ht.1, ht.2.1, ht.2.2.1⟩
      · simp only [openHci, if_neg ho]
        exact ⟨⟨.inr ⟨o, by rw [ht.2.2.1], rfl⟩, fun _ hf => (nomatch ht.2.1.symm.trans hf),
          fun h => (nomatch hst.symm.trans h), hs.watched, fun _ => rfl⟩, ht.1, ht.2.1, by rw [ht.2.2.1],
          Int.not_lt.mp ho⟩
    | dropManagement =>
      cases h
      have hst := hm _ rfl
      have hn := hs.closeMgmt_eq_nil
      exact ⟨⟨.inl hn, fun _ hf => (nomatch ht.2.1.symm.trans hf), fun _ => ⟨ht.2.1, hn⟩,
        hs.watched, fun h => nomatch hst.symm.trans h⟩, ht.2.1, hn⟩
    | setReady =>
      cases h
      exact ⟨⟨hs.fds, fun _ hf => (nomatch ht.1.symm.trans hf), fun _ => ht, hs.watched, nofun⟩, trivial⟩
    | linkToDeath =>
      obtain ⟨s₁, hl, h⟩ := map_eq_ok h
      cases h
      obtain ⟨c, -, rfl⟩ := linkToDeath_ok hl
      exact ⟨hs.of_agree ⟨rfl, rfl, rfl, rfl, rfl, .inl rfl⟩ (.inl rfl), ht⟩
    | makeH4 =>
      cases h
      have hst := hm _ rfl
      have hmem : s.mFd ∈ s.openFds := ht.2.2.1 ▸ List.mem_singleton_self _
      refine ⟨⟨hs.fds, fun fd hf => ?_, fun h => (nomatch hst.symm.trans h), fun _ => ⟨rfl, ht.1⟩,
        fun h => nomatch hst.symm.trans h⟩, ht.1, rfl, by simp [hs.management_of_mem hmem]⟩
      cases hf
      exact ⟨rfl, ht.2.2.2, .inl hmem⟩
    | watch =>
      cases h
      exact ⟨⟨hs.fds, hs.h4, hs.ready, fun _ => ⟨ht.2.1, ht.1⟩, hs.oneClient⟩, ht.1, ht.2.2⟩
    | exit =>
      cases h
      have hst := hm _ rfl
      refine ⟨⟨hs.fds, fun fd hf => ?_, nofun, hs.watched, fun _ => ht.2⟩, ht.1⟩
      obtain ⟨h1, h2, h3⟩ := hs.h4 fd hf
      exact ⟨h1, h2, .inl (h3.resolve_right fun h => nomatch hst.symm.trans h)⟩
    | complete =>
      obtain ⟨ha, hq⟩ := Thread.step_quiet (by rfl) h
      refine ⟨hs.of_agree ha hq, ?_⟩
      simp only [Thread.step, initStep] at h
      split at h <;> cases h
      cases d <;> trivial
  | closing pc after =>
    cases pc with
    | enter =>
      obtain ⟨ha, hq⟩ := Thread.step_quiet (by rfl) h
      refine ⟨hs.of_agree ha hq, ?_⟩
      simp only [Thread.step, closeStep] at h
      split at h <;> cases h
      · exact after.finish_safe
      · next hc =>
        unfold closeEnter at hc
        split_ifs at hc with h1 <;> cases hc
        exact hs.oneClient (not_not.mp h1)
    | stopWatching =>
      cases h
      exact ⟨hs.of_agree ⟨rfl, rfl, rfl, rfl, rfl, .inr rfl⟩ (.inl rfl), ht, rfl⟩
    | closeHci =>
      obtain ⟨s₁, hc, h⟩ := map_eq_ok h
      cases h
      obtain ⟨m, hm', rfl⟩ := closeHci_ok hc
      have hst := hm _ rfl
      have hn := hs.closeMgmt_eq_nil
      rw [hm'] at hn
      refine ⟨⟨.inl hn, fun fd hf => ?_, fun h => (nomatch hst.symm.trans h), hs.watched, fun _ => rfl⟩,
        ht.2, hn⟩
      obtain ⟨h1, h2, -⟩ := hs.h4 fd hf
      exact ⟨h1, h2, .inr hst⟩
    | exit =>
      cases h
      have hw : s.watched = none := ht.1
      exact ⟨⟨hs.fds, nofun, fun _ => ⟨rfl, ht.2⟩, fun h => absurd h (by simp [hw]), nofun⟩,
        after.finish_safe⟩
  | send type v =>
    obtain ⟨ha, hq⟩ := Thread.step_quiet (by rfl) h
    refine ⟨hs.of_agree ha hq, ?_⟩
    simp only [Thread.step] at h
    split at h <;> cases h <;> trivial
  | serviceDied pc =>
    obtain ⟨ha, hq⟩ := Thread.step_quiet (by rfl) h
    refine ⟨hs.of_agree ha hq, ?_⟩
    cases pc <;> cases h
    · split <;> trivial
    · trivial
  | idle => cases h; exact ⟨hs, trivial⟩
  | done => cases h; exact ⟨hs, trivial⟩

/-- `mCb` is only ever set. -/
theorem Thread.step_mCb {t t' : Thread} {es : List Effect} (h : t.step s = .ok (t', s', es))
    (hc : s.mCb.isSome) : s'.mCb.isSome := by
  by_cases hq : t.mode = none
  · exact (Thread.step_quiet hq h).1.mCb ▸ hc
  cases t with
  | init c o d pc =>
    cases pc with
    | enter | complete => exact absurd rfl hq
    | setCb => cases h; rfl
    | openHci =>
      obtain ⟨-, ⟨⟩⟩ := initStep_openHci h
      simp only [openHci]; split <;> exact hc
    | linkToDeath =>
      obtain ⟨s₁, hl, h⟩ := map_eq_ok h
      cases h
      obtain ⟨c, -, rfl⟩ := linkToDeath_ok hl
      exact hc
    | _ => cases h; exact hc
  | closing pc after =>
    cases pc with
    | enter => exact absurd rfl hq
    | closeHci =>
      obtain ⟨s₁, hl, h⟩ := map_eq_ok h
      cases h
      obtain ⟨m, -, rfl⟩ := closeHci_ok hl
      exact hc
    | _ => cases h; exact hc
  | _ => exact absurd rfl hq

theorem map_eq_error {α β : Type} {f : α → β} {x : Except String α} {e : String}
    (h : x.map f = .error e) : x = .error e := by
  cases x with
  | error e' => cases h; rfl
  | ok a => cases h

/-- A thread whose facts hold aborts only where the code means to. -/
theorem Thread.step_error {t : Thread} {msg : String} (ht : t.Safe s)
    (h : t.step s = .error msg) :
    msg = "mState is INITIALIZING" ∨ msg = "Unable to link to death recipient" := by
  cases t with
  | init c o d pc =>
    cases pc with
    | enter => simp only [Thread.step, initStep] at h; split at h <;> cases h
    | linkToDeath =>
      have hl := map_eq_error h
      unfold linkToDeath at hl
      split at hl
      · next hc => simp [Thread.Safe, InitPc.Safe, hc] at ht
      · split at hl <;> cases hl
        exact .inr rfl
    | openHci | complete =>
      simp only [Thread.step, initStep] at h
      split at h
      · next hc => simp [Thread.Safe, InitPc.Safe, hc] at ht
      · cases h
    | _ => cases h
  | closing pc after =>
    cases pc with
    | enter =>
      simp only [Thread.step, closeStep] at h
      split at h <;> cases h
      next hc =>
      unfold closeEnter at hc
      split_ifs at hc
      exact .inl (Except.error.inj hc).symm
    | closeHci =>
      have hc := map_eq_error h
      unfold closeHci at hc
      split at hc
      · next hm => simp [Thread.Safe, ClosePc.Safe, hm] at ht
      · cases hc
    | _ => cases h
  | send type v => simp only [Thread.step] at h; split at h <;> cases h
  | serviceDied pc => cases pc <;> cases h
  | idle => cases h
  | done => cases h

theorem AfterClose.finish_no_send (after : AfterClose) {fd : Int} {type : PacketType}
    {v : List UInt8} : Effect.send fd type v ∉ after.finish.2 := by
  cases after <;> simp [AfterClose.finish]

/-- The only packet a thread writes is `send`'s, through the `H4Protocol`. -/
theorem Thread.step_send {t t' : Thread} {es : List Effect} (h : t.step s = .ok (t', s', es))
    {fd : Int} {type : PacketType} {v : List UInt8} (he : Effect.send fd type v ∈ es) :
    s.mH4 = some fd := by
  cases t with
  | send type' v' =>
    simp only [Thread.step] at h
    split at h <;> cases h
    · cases he
    · unfold sendLocked at he
      split at he
      · cases he
      · next fd' hfd => simp only [List.mem_singleton, Effect.send.injEq] at he; rw [hfd, he.1]
  | init c o d pc =>
    cases pc with
    | enter => simp only [Thread.step, initStep] at h; split at h <;> cases h <;> cases he
    | linkToDeath => obtain ⟨_, -, h⟩ := map_eq_ok h; cases h; cases he
    | openHci => obtain ⟨-, ⟨⟩⟩ := initStep_openHci h; cases he
    | complete =>
      simp only [Thread.step, initStep] at h
      split at h <;> cases h
      simp at he
    | _ => cases h; simp at he
  | closing pc after =>
    cases pc with
    | enter =>
      simp only [Thread.step, closeStep] at h
      split at h <;> cases h
      · exact absurd he after.finish_no_send
      · cases he
    | closeHci => obtain ⟨_, -, h⟩ := map_eq_ok h; cases h; cases he
    | exit => cases h; exact absurd he after.finish_no_send
    | stopWatching => cases h; cases he
  | serviceDied pc => cases pc <;> cases h <;> cases he
  | idle => cases h; cases he
  | done => cases h; cases he

end

@[simp] theorem Call.start_safe (call : Call) (s : BluetoothHci) : call.start.Safe s := by
  cases call with
  | init cb o d => cases cb <;> trivial
  | _ => trivial

namespace Process

variable {p p' : Process}

/-! ### Every interleaving -/

/-- What holds in every process an interleaving reaches: the transient states are
exclusive, the HAL's fields agree, and each thread finds what its next statement
needs. -/
structure Safe (p : Process) : Prop where
  exclusive : Exclusive p
  hal : HalSafe p.hal
  threads : ∀ i, (p.threads i).Safe p.hal

theorem safe_initial : Safe initial :=
  ⟨exclusive_initial, ⟨.inl rfl, nofun, fun _ => ⟨rfl, rfl⟩, nofun, nofun⟩, fun _ => trivial⟩

theorem Safe.run (hp : Safe p) {i : Nat} {t : Thread} {s : BluetoothHci} {es : List Effect}
    (h : (p.threads i).step p.hal = .ok (t, s, es)) :
    Safe { p with hal := s, threads := Function.update p.threads i t } := by
  have hm : ∀ st, (p.threads i).mode = some st → p.hal.mState = st := fun st hst =>
    Option.some.inj ((hp.exclusive.holder i (by simp [hst])).1.symm.trans hst)
  obtain ⟨hs, ht⟩ := Thread.step_safe hp.hal (hp.threads i) hm h
  refine ⟨hp.exclusive.run h, hs, fun j => ?_⟩
  dsimp only
  rw [Function.update_apply]
  split
  · exact ht
  · next hji =>
    by_cases hq : (p.threads i).mode = none
    · exact (hp.threads j).of_agree (Thread.step_quiet hq h).1
    · exact (hp.threads j).of_mode_none
        (by_contra fun hj => hji ((hp.exclusive.holder i hq).2 j hj)) (Thread.step_mCb h)

theorem Safe.next (hp : Safe p) {e : Event} {es : List Effect} (h : p.next e = .ok (p', es)) :
    Safe p' := by
  have hx := hp.exclusive.next h
  cases e with
  | run i =>
    obtain ⟨⟨t, s, es⟩, hr, h⟩ := map_eq_ok h
    cases h
    exact hp.run hr
  | call i call =>
    simp only [Process.next] at h
    split at h <;> cases h
    · refine ⟨hx, hp.hal, fun j => ?_⟩
      dsimp only
      rw [Function.update_apply]
      split
      · exact call.start_safe _
      · exact hp.threads j
    · exact hp
  | deliver i =>
    simp only [Process.next] at h
    split at h <;> cases h
    · refine ⟨hx, hp.hal, fun j => ?_⟩
      dsimp only
      rw [Function.update_apply]
      split
      · trivial
      · exact hp.threads j
    · exact hp
  | clientDied x =>
    cases h
    have ha : Agree p.hal { p.hal with dead := x :: p.hal.dead } := ⟨rfl, rfl, rfl, rfl, rfl, .inl rfl⟩
    exact ⟨hx, hp.hal.of_agree ha (.inl rfl), fun j => (hp.threads j).of_agree ha⟩
  | packetReady type v =>
    simp only [Process.next] at h
    split at h
    · obtain ⟨_, -, h⟩ := map_eq_ok h
      cases h
      exact hp
    · cases h; exact hp
  | disconnected =>
    simp only [Process.next] at h
    split at h
    · obtain ⟨s, hs, h⟩ := map_eq_ok h
      cases h
      unfold BluetoothHci.disconnected at hs
      split at hs <;> cases hs
      have ha : Agree p.hal (stopWatching p.hal) := ⟨rfl, rfl, rfl, rfl, rfl, .inr rfl⟩
      exact ⟨hx, hp.hal.of_agree ha (.inl rfl), fun j => (hp.threads j).of_agree ha⟩
    · cases h; exact hp

theorem Reachable.safe (h : Reachable p) : Safe p := by
  induction h with
  | initial => exact safe_initial
  | next _ hn ih => exact ih.next hn

/-! ### What the invariant gives -/

/-- In every interleaving the HAL holds at most one HCI descriptor and `management_` owns
it; the `H4Protocol` is built on `mFd`, a descriptor `openHci` returned, which is still
open unless a `close()` is running; in `READY` there is no `H4Protocol` and no descriptor
is open, so every session releases what it opened; the fd watcher runs only with an
`H4Protocol` and a callback; and `ONE_CLIENT` has a `management_`. -/
theorem Reachable.hal_safe (h : Reachable p) : HalSafe p.hal := h.safe.hal

theorem hal_safe_after_initialize :
    ∃ p, run initial [.call 0 (.init (some ⟨1⟩) 3 true), .run 0, .run 0, .run 0, .run 0, .run 0,
      .run 0, .run 0, .run 0, .run 0] = .ok p ∧ HalSafe p.hal :=
  ⟨_, rfl, Reachable.hal_safe (Reachable.of_run [.call 0 (.init (some ⟨1⟩) 3 true), .run 0, .run 0, .run 0,
    .run 0, .run 0, .run 0, .run 0, .run 0, .run 0] .initial rfl)⟩

theorem packetReady_error {s : BluetoothHci} {type : PacketType} {v : List UInt8} {msg : String}
    (h4 : s.mH4.isSome) (hc : s.mCb.isSome) (h : packetReady type v s = .error msg) :
    msg = "Unexpected command!" := by
  obtain ⟨fd, hfd⟩ := Option.isSome_iff_exists.mp h4
  obtain ⟨c, hcc⟩ := Option.isSome_iff_exists.mp hc
  simp only [packetReady, hfd, hcc] at h
  split_ifs at h
  exact (Except.error.inj h).symm

/-- In every interleaving the process aborts only through three checks of the code: a
`close()` that finds `INITIALIZING`, a death link refused on a dead client's binder, and a
command packet from the controller. No thread, and not the fd watcher, dereferences a null
`mCb`, `mH4` or `management_`. -/
theorem Reachable.aborts_only_on_checks (h : Reachable p) {e : Event} {msg : String}
    (he : p.next e = .error msg) :
    msg = "mState is INITIALIZING" ∨ msg = "Unable to link to death recipient" ∨
      msg = "Unexpected command!" := by
  have hp := h.safe
  cases e with
  | run i => exact (Thread.step_error (hp.threads i) (map_eq_error he)).imp_right .inl
  | packetReady type v =>
    simp only [Process.next] at he
    split at he
    · next hw =>
      have hw := hp.hal.watched hw
      exact .inr (.inr (packetReady_error hw.1 hw.2 (map_eq_error he)))
    · cases he
  | disconnected =>
    simp only [Process.next] at he
    split at he
    · next hw =>
      have hd := map_eq_error he
      obtain ⟨fd, hfd⟩ := Option.isSome_iff_exists.mp (hp.hal.watched hw).1
      simp [BluetoothHci.disconnected, hfd] at hd
    · cases he
  | call i c => simp only [Process.next] at he; split at he <;> cases he
  | deliver i => simp only [Process.next] at he; split at he <;> cases he
  | clientDied x => cases he

theorem aborts_only_on_checks_command :
    ∃ p, run initial [.call 0 (.init (some ⟨1⟩) 3 true), .run 0, .run 0, .run 0, .run 0, .run 0,
      .run 0, .run 0, .run 0, .run 0] = .ok p ∧
      ∃ msg, p.next (.packetReady .COMMAND [1]) = .error msg ∧
        (msg = "mState is INITIALIZING" ∨ msg = "Unable to link to death recipient" ∨
          msg = "Unexpected command!") :=
  ⟨_, rfl, _, rfl, Reachable.aborts_only_on_checks (e := .packetReady .COMMAND [1])
    (Reachable.of_run [.call 0 (.init (some ⟨1⟩) 3 true), .run 0, .run 0, .run 0, .run 0, .run 0,
      .run 0, .run 0, .run 0, .run 0] .initial rfl) rfl⟩

/-- A packet the HAL writes goes through its `H4Protocol`. -/
theorem next_send {e : Event} {es : List Effect} (h : p.next e = .ok (p', es)) {fd : Int}
    {type : PacketType} {v : List UInt8} (he : Effect.send fd type v ∈ es) : p.hal.mH4 = some fd := by
  cases e with
  | run i =>
    obtain ⟨⟨t, s, es'⟩, hr, h⟩ := map_eq_ok h
    cases h
    exact Thread.step_send hr he
  | packetReady type v =>
    simp only [Process.next] at h
    split at h
    · obtain ⟨es', hr, h⟩ := map_eq_ok h
      cases h
      unfold packetReady at hr
      split at hr <;> (try split at hr) <;> (try split at hr) <;> cases hr
      simp at he
    · cases h; cases he
  | disconnected =>
    simp only [Process.next] at h
    split at h
    · obtain ⟨_, -, h⟩ := map_eq_ok h; cases h; cases he
    · cases h; cases he
  | call i c => simp only [Process.next] at h; split at h <;> cases h <;> cases he
  | deliver i => simp only [Process.next] at h; split at h <;> cases h <;> cases he
  | clientDied x => cases h; cases he

/-- In every interleaving a packet the HAL writes goes to `mFd`, the descriptor the last
successful `openHci` returned, never while the HAL is `READY`, and to a descriptor still
open unless a `close()` is running. -/
theorem Reachable.send_targets_current_fd (h : Reachable p) {e : Event} {es : List Effect}
    (hn : p.next e = .ok (p', es)) {fd : Int} {type : PacketType} {v : List UInt8}
    (he : Effect.send fd type v ∈ es) :
    fd = p.hal.mFd ∧ 0 ≤ fd ∧ p.hal.mState ≠ .READY ∧
      (fd ∈ p.hal.openFds ∨ p.hal.mState = .CLOSING) := by
  have hs := h.safe.hal
  have h4 := next_send hn he
  obtain ⟨h1, h2, h3⟩ := hs.h4 fd h4
  exact ⟨h1, h2, fun hr => by simp [(hs.ready hr).1] at h4, h3⟩

theorem send_targets_current_fd_in_session :
    ∃ p p', run initial [.call 0 (.init (some ⟨1⟩) 3 true), .run 0, .run 0, .run 0, .run 0, .run 0,
      .run 0, .run 0, .run 0, .run 0, .call 1 (.send .ACL_DATA [1])] = .ok p ∧
      p.next (.run 1) = .ok (p', [.send 3 .ACL_DATA [1]]) ∧
      (3 = p.hal.mFd ∧ 0 ≤ (3 : Int) ∧ p.hal.mState ≠ .READY ∧
        ((3 : Int) ∈ p.hal.openFds ∨ p.hal.mState = .CLOSING)) :=
  ⟨_, _, rfl, rfl, Reachable.send_targets_current_fd (e := .run 1) (Reachable.of_run [.call 0 (.init (some ⟨1⟩) 3 true),
    .run 0, .run 0, .run 0, .run 0, .run 0, .run 0, .run 0, .run 0, .run 0, .call 1 (.send .ACL_DATA [1])]
    .initial rfl) rfl (List.mem_singleton_self _)⟩

/-! ### The completion callback -/

/-- A client's `close()` run to its end on a session: `closeHci` releases what
`management_` owns and the HAL is `READY` again. -/
theorem run_close_session {j : Nat} {m : NetBluetoothMgmt} (hj : p.threads j = .idle)
    (hs : p.hal.mState = .ONE_CLIENT) (hm : p.hal.management = some m) :
    run p [.call j .close, .run j, .run j, .run j, .run j] =
      .ok { p with hal := closed p.hal m.btFd, threads := Function.update p.threads j (.done .ok) } := by
  simp only [run, Process.next, hj, ↓reduceIte, Call.start, Thread.step, Function.update_same,
    Function.update_idem, closeStep, closeEnter, hs, ne_eq, not_true_eq_false, stopWatching, closeHci,
    hm, closeExit, AfterClose.finish, Except.bind, Except.map]
  rfl

/-- An `initialize` from `READY`, run to just after `mCb = cb`: the HAL is `INITIALIZING`
with the new client's callback. -/
theorem run_init_to_setCb {k : Nat} {x : Client} {o : Int} {d : Bool} (hk : p.threads k = .idle)
    (hs : p.hal.mState = .READY) :
    run p [.call k (.init (some x) o d), .run k, .run k] =
      .ok { p with hal := { p.hal with mState := .INITIALIZING, mCb := some x },
                   threads := Function.update p.threads k (.init x o d .resetManagement) } := by
  simp [run, Process.next, hk, Call.start, Thread.step, initStep, initEnter, hs, Except.bind, Except.map]

/-- `initialize` calls `initializationComplete(SUCCESS)` through `mCb` after publishing
`ONE_CLIENT`, outside the lock. From every reachable process in which an `initialize` is
about to do so, a `close()` and another client's `initialize` can run first, and the
callback then goes to that other client, whose own `initialize` is still running. -/
theorem Reachable.completion_to_current_client (h : Reachable p) (i j k : Nat) (x : Client)
    (opened : Int) (delivered : Bool) {c : Client} {o : Int} {d : Bool}
    (hi : p.threads i = .init c o d .complete) (hs : p.hal.mState = .ONE_CLIENT)
    (hj : p.threads j = .idle) (hk : p.threads k = .idle) (hji : j ≠ i) (hki : k ≠ i) (hjk : j ≠ k) :
    ∃ p', run p [.call j .close, .run j, .run j, .run j, .run j,
        .call k (.init (some x) opened delivered), .run k, .run k] = .ok p' ∧
      p'.hal.mState = .INITIALIZING ∧ p'.threads i = .init c o d .complete ∧
      ∃ p'', p'.next (.run i) = .ok (p'', [.initializationComplete x .SUCCESS]) := by
  obtain ⟨m, hm⟩ := Option.isSome_iff_exists.mp (h.safe.hal.oneClient hs)
  have hclose := run_close_session hj hs hm
  have hinit := run_init_to_setCb (k := k) (x := x) (o := opened) (d := delivered)
    (p := { p with hal := closed p.hal m.btFd, threads := Function.update p.threads j (.done .ok) })
    (by simp only [Function.update_noteq hjk.symm, hk]) rfl
  have hi' : (Function.update (Function.update p.threads j (.done .ok)) k
      (.init x opened delivered .resetManagement)) i = .init c o d .complete := by
    simp only [Function.update_noteq hki.symm, Function.update_noteq hji.symm, hi]
  refine ⟨_, (run_append p [_, _, _, _, _] [_, _, _]).trans (by rw [hclose]; exact hinit), rfl, hi', ?_⟩
  simp only [Process.next, hi', Thread.step, initStep, Except.map]
  exact ⟨_, rfl⟩

theorem completion_to_current_client_after_exit :
    ∃ p, run initial [.call 0 (.init (some ⟨1⟩) 3 true), .run 0, .run 0, .run 0,
    .run 0, .run 0, .run 0, .run 0, .run 0] = .ok p ∧
      ∃ p', run p [.call 1 .close, .run 1, .run 1, .run 1, .run 1,
          .call 2 (.init (some ⟨2⟩) 4 true), .run 2, .run 2] = .ok p' ∧
        p'.hal.mState = .INITIALIZING ∧ p'.threads 0 = .init ⟨1⟩ 3 true .complete ∧
        ∃ p'', p'.next (.run 0) = .ok (p'', [.initializationComplete ⟨2⟩ .SUCCESS]) :=
  ⟨_, rfl, Reachable.completion_to_current_client (Reachable.of_run [.call 0 (.init (some ⟨1⟩) 3 true), .run 0, .run 0, .run 0,
    .run 0, .run 0, .run 0, .run 0, .run 0] .initial rfl)
    0 1 2 ⟨2⟩ 4 true rfl rfl rfl rfl (by decide) (by decide) (by decide)⟩

end Process

end Rpi4Hal.Bluetooth
