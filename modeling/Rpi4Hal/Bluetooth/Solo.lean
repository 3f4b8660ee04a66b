import Rpi4Hal.Bluetooth.Threads

/-! The thread model refines the sequential one. A call whose thread runs alone, with no
other event in between, does what the sequential call does when run to completion: it
returns the same status, leaves the same state and makes the same callbacks and writes,
and it aborts exactly when the sequential call aborts. The same holds for a death
notification and `serviceDied`, and for a client's death with every notification it
owes and the sequential `clientDied`. So every result proved of sequential runs is a result
about the interleaving model's solo runs, and the interleaving counterexamples differ
from sequential runs only in what the interleaving adds. -/

namespace Rpi4Hal.Bluetooth

open BluetoothHci

/-- Runs a thread alone for at most `fuel` steps, or until it returns: the thread, the
HAL, and the effects of its steps in order. -/
def Thread.solo : Nat → Thread → BluetoothHci → Except String (Thread × BluetoothHci × List Effect)
  | 0, t, s => .ok (t, s, [])
  | _ + 1, .done ret, s => .ok (.done ret, s, [])
  | fuel + 1, t, s => (t.step s).bind fun r =>
      (solo fuel r.1 r.2.1).map fun r' => (r'.1, r'.2.1, r.2.2 ++ r'.2.2)

namespace Thread

/-! ### Each call run alone -/

@[simp] theorem solo_done (n : Nat) (ret : ScopedAStatus) (s : BluetoothHci) :
    solo n (.done ret) s = .ok (.done ret, s, []) := by
  cases n <;> rfl

@[simp] theorem solo_finish (n : Nat) (after : AfterClose) (s : BluetoothHci) :
    solo n after.finish.1 s = .ok (after.finish.1, s, []) := by
  cases after <;> simp [AfterClose.finish]

theorem solo_succ {t : Thread} (ht : ∀ ret, t ≠ .done ret) (n : Nat) (s : BluetoothHci) :
    solo (n + 1) t s = (t.step s).bind fun r =>
      (solo n r.1 r.2.1).map fun r' => (r'.1, r'.2.1, r.2.2 ++ r'.2.2) := by
  cases t <;> first | rfl | exact absurd rfl (ht _)

/-- A `close()` run alone is the sequential `close`. -/
theorem solo_close (after : AfterClose) (s : BluetoothHci) (n : Nat) :
    solo (n + 4) (.closing .enter after) s =
      (close s).map fun s' => (after.finish.1, s', after.finish.2) := by
  unfold close
  rcases h : closeEnter s with e | _ | s1
  · simp [solo_succ, Thread.step, closeStep, h, Except.bind, Except.map]
  · simp [solo_succ, Thread.step, closeStep, h, Except.bind, Except.map]
  · rcases h2 : closeHci (stopWatching s1) with e | s2 <;>
      simp [solo_succ, Thread.step, closeStep, h, h2, Except.map, Except.bind, -stopWatching]

theorem solo_init_succ (c : Client) (o : Int) (d : Bool) (pc : InitPc) (n : Nat) (s : BluetoothHci) :
    solo (n + 1) (.init c o d pc) s = (initStep c o d pc s).bind fun r =>
      (solo n r.1 r.2.1).map fun r' => (r'.1, r'.2.1, r.2.2 ++ r'.2.2) := rfl

/-- An `initialize` run alone is the sequential `initialize`. -/
theorem solo_init (c : Client) (o : Int) (d : Bool) (s : BluetoothHci) (n : Nat) :
    solo (n + 13) (.init c o d .enter) s =
      (BluetoothHci.step s (.init (some c) o d)).map fun r => (.done r.ret, r.hal, r.effects) := by
  simp only [BluetoothHci.step]
  unfold BluetoothHci.initialize
  by_cases h1 : (initEnter s).1 = .READY
  case neg =>
    rcases hc : close (initEnter s).2 with e | s'
    · simp [solo_init_succ, initStep, h1, solo_close, hc, Except.bind, Except.map]
    · simp [solo_init_succ, initStep, h1, solo_close, hc, Except.bind, Except.map, AfterClose.finish]
  by_cases ho : (openHci o (resetManagement (setCb c (initEnter s).2))).mFd < 0
  · simp [solo_init_succ, initStep, h1, ho, resetManagement_management, Except.bind, Except.map, -openHci, -resetManagement,
      -setCb, -setReady, -dropManagement]
  rcases hl : linkToDeath (openHci o (resetManagement (setCb c (initEnter s).2))) with e | s3
  · simp [solo_init_succ, initStep, h1, ho, resetManagement_management, hl, Except.bind, Except.map, -openHci, -resetManagement,
      -setCb]
  rcases hc : (initExit (watch (makeH4 s3))).mCb with _ | c'
  · simp [solo_init_succ, initStep, h1, ho, resetManagement_management, hl, hc, initComplete, Except.bind, Except.map, -openHci,
      -resetManagement, -setCb, -initExit, -watch, -makeH4]
  cases d
  · rcases hx : close (initExit (watch (makeH4 s3))) with e | s5 <;>
      simp [solo_init_succ, initStep, h1, ho, resetManagement_management, hl, hc, hx, initComplete, solo_close, AfterClose.finish,
        Except.bind, Except.map, -openHci, -resetManagement, -setCb, -initExit, -watch, -makeH4]
  · simp [solo_init_succ, initStep, h1, ho, resetManagement_management, hl, hc, initComplete, Except.bind, Except.map, -openHci,
      -resetManagement, -setCb, -initExit, -watch, -makeH4]

theorem solo_serviceDied_succ (pc : DiedPc) (n : Nat) (s : BluetoothHci) :
    solo (n + 1) (.serviceDied pc) s = (Thread.step (.serviceDied pc) s).bind fun r =>
      (solo n r.1 r.2.1).map fun r' => (r'.1, r'.2.1, r.2.2 ++ r'.2.2) := rfl

/-- A death notification run alone is `serviceDied`. -/
theorem solo_serviceDied (s : BluetoothHci) (n : Nat) :
    solo (n + 6) (.serviceDied .check) s =
      (BluetoothHci.serviceDied s).map fun s' => (.done .ok, s', []) := by
  by_cases hd : s.deathDetected
  · rcases hc : close (setHasDied s) with e | s' <;>
      simp [solo_serviceDied_succ, Thread.step, BluetoothHci.serviceDied, hd, hc, solo_close,
        AfterClose.finish, Except.bind, Except.map, -setHasDied]
  · simp [solo_serviceDied_succ, Thread.step, BluetoothHci.serviceDied, hd, Except.bind, Except.map]

end Thread

/-- The operation of a sequential run that a call is. -/
def Call.op : Call → Op
  | .init cb o d => .init cb o d
  | .close => .close
  | .send type v => .send type v

/-- Run alone from any state, the thread of a call returns what the sequential call
returns, leaves the state it leaves, makes the callbacks and writes it makes, and aborts
exactly when it aborts. -/
theorem Call.solo_refines (call : Call) (s : BluetoothHci) (n : Nat) :
    Thread.solo (n + 13) call.start s =
      (BluetoothHci.step s call.op).map fun r => (.done r.ret, r.hal, r.effects) := by
  cases call with
  | init cb o d =>
    cases cb with
    | none => simp [Call.start, Call.op, BluetoothHci.step, BluetoothHci.initialize, Except.map]
    | some c => exact Thread.solo_init c o d s n
  | close =>
    rcases hc : BluetoothHci.close s with e | s' <;>
      simp [Call.start, Call.op, BluetoothHci.step, Thread.solo_close, hc, AfterClose.finish, Except.map]
  | send type v =>
    by_cases hv : v = [] <;>
      simp [Call.start, Call.op, BluetoothHci.step, Thread.solo_succ, Thread.step, BluetoothHci.send, hv,
        Except.bind, Except.map]

/-! ### In the interleaving model -/

namespace Process

/-- Runs of thread `i` alone are its solo runs, with the same effects. -/
theorem runLog_solo (p : Process) (i k : Nat) :
    runLog p (List.replicate k (.run i)) =
      (Thread.solo k (p.threads i) p.hal).map fun r =>
        ({ p with hal := r.2.1, threads := Function.update p.threads i r.1 }, r.2.2) := by
  induction k generalizing p with
  | zero => cases p; simp [runLog, Thread.solo, Except.map]
  | succ k ih =>
    by_cases hd : ∃ ret, p.threads i = .done ret
    · obtain ⟨ret, hr⟩ := hd
      have hp : { p with threads := Function.update p.threads i (.done ret) } = p := by
        cases p; simp_all
      simp [runLog, next, hr, Thread.step, Except.map, Except.bind, ih, hp]
    · rw [Thread.solo_succ (fun ret h => hd ⟨ret, h⟩)]
      rcases hs : Thread.step (p.threads i) p.hal with e | ⟨t, s, es⟩
      · simp [runLog, next, hs, Except.map, Except.bind]
      · simp only [runLog, next, hs, Except.map, Except.bind, ih, Function.update_same,
          Function.update_idem]
        cases Thread.solo k t s <;> rfl

theorem run_solo (p : Process) (i k : Nat) :
    run p (List.replicate k (.run i)) =
      (Thread.solo k (p.threads i) p.hal).map fun r =>
        { p with hal := r.2.1, threads := Function.update p.threads i r.1 } := by
  rw [← runLog_fst, runLog_solo]
  cases Thread.solo k (p.threads i) p.hal <;> rfl

theorem runLog_call (p : Process) (i : Nat) (call : Call) (hi : p.threads i = .idle)
    (events : List Event) :
    runLog p (.call i call :: events) =
      runLog { p with threads := Function.update p.threads i call.start } events := by
  rw [runLog, next, if_pos hi]
  simp only [Except.bind]
  cases runLog { p with threads := Function.update p.threads i call.start } events <;> rfl

/-- In the interleaving model, a call made on an idle thread that then runs alone does
what the sequential call does: the HAL ends in the state the call leaves, the thread
returns its status, the run makes its callbacks and writes in its order, and it aborts
exactly when the call aborts. -/
theorem run_call_alone (p : Process) (i : Nat) (call : Call) (hi : p.threads i = .idle) (n : Nat) :
    runLog p (.call i call :: List.replicate (n + 13) (.run i)) =
      (BluetoothHci.step p.hal call.op).map fun r =>
        ({ p with hal := r.hal, threads := Function.update p.threads i (.done r.ret) }, r.effects) := by
  rw [runLog_call p i call hi, runLog_solo]
  simp only [Function.update_same, Call.solo_refines, Function.update_idem]
  rcases BluetoothHci.step p.hal call.op with e | r <;> rfl

theorem run_call_alone_initialize :
    Process.initial.threads 0 = .idle ∧
    runLog .initial (.call 0 (.init (some ⟨1⟩) 3 true) :: List.replicate 13 (.run 0)) =
      (BluetoothHci.step BluetoothHci.initial (.init (some ⟨1⟩) 3 true)).map fun r =>
        ({ Process.initial with
            hal := r.hal, threads := Function.update Process.initial.threads 0 (.done r.ret) },
          r.effects) :=
  ⟨rfl, run_call_alone .initial 0 (.init (some ⟨1⟩) 3 true) rfl 0⟩

/-- `k` owed death notifications, each delivered to a fresh thread from `i` on and run
alone. -/
def deliveries (i : Nat) : Nat → List Event
  | 0 => []
  | k + 1 => .deliver i :: List.replicate 6 (.run i) ++ deliveries (i + 1) k

theorem run_deliver (p : Process) (i : Nat) (hi : p.threads i = .idle) (hp : 0 < p.pending)
    (events : List Event) :
    run p (.deliver i :: events) =
      run { p with threads := Function.update p.threads i (.serviceDied .check),
                   pending := p.pending - 1 } events := by
  rw [run, next, if_pos ⟨hi, hp⟩]; rfl

/-- A death notification delivered to an idle thread that then runs alone is `serviceDied`. -/
theorem run_deliver_alone (p : Process) (i : Nat) (hi : p.threads i = .idle) (hp : 0 < p.pending) :
    run p (.deliver i :: List.replicate 6 (.run i)) =
      (BluetoothHci.serviceDied p.hal).map fun s =>
        { p with hal := s, threads := Function.update p.threads i (.done .ok), pending := p.pending - 1 } := by
  rw [run_deliver p i hi hp, run_solo]
  simp only [Function.update_same, Function.update_idem]
  rw [show (6 : Nat) = 0 + 6 from rfl, Thread.solo_serviceDied]
  rcases BluetoothHci.serviceDied p.hal with e | s <;> rfl

theorem run_deliveries (k : Nat) (p : Process) (i : Nat) (hi : ∀ j, i ≤ j → p.threads j = .idle)
    (hp : k ≤ p.pending) :
    (run p (deliveries i k)).map Process.hal = serviceDiedTimes k p.hal := by
  induction k generalizing p i with
  | zero => rfl
  | succ k ih =>
    rw [deliveries, run_append, run_deliver_alone p i (hi i le_rfl) (by omega),
      serviceDiedTimes]
    rcases BluetoothHci.serviceDied p.hal with e | s
    · rfl
    · refine ih _ (i + 1) (fun j hj => ?_) (by simp; omega)
      dsimp only
      rw [Function.update_noteq (by omega)]
      exact hi j (by omega)

/-- In the interleaving model, a client's death followed by each notification it owes,
delivered to a fresh idle thread and run alone, leaves the HAL as the sequential
`clientDied` does, and aborts exactly when it does. -/
theorem run_clientDied_alone (p : Process) (x : Client) (i : Nat)
    (hi : ∀ j, i ≤ j → p.threads j = .idle) :
    (run p (.clientDied x :: deliveries i (p.hal.links.count x))).map Process.hal =
      clientDied x p.hal := by
  rw [run, next]
  exact run_deliveries _ _ i hi (by simp)

theorem run_clientDied_alone_session :
    (opened BluetoothHci.initial ⟨1⟩ 3).links.count ⟨1⟩ = 1 ∧
    (∀ j, 0 ≤ j → (⟨opened BluetoothHci.initial ⟨1⟩ 3, fun _ => .idle, 0⟩ : Process).threads j = .idle) ∧
    (run ⟨opened BluetoothHci.initial ⟨1⟩ 3, fun _ => .idle, 0⟩
      (.clientDied ⟨1⟩ :: deliveries 0 ((opened BluetoothHci.initial ⟨1⟩ 3).links.count ⟨1⟩))).map Process.hal =
      clientDied ⟨1⟩ (opened BluetoothHci.initial ⟨1⟩ 3) :=
  ⟨rfl, fun _ _ => rfl, run_clientDied_alone ⟨opened BluetoothHci.initial ⟨1⟩ 3, fun _ => .idle, 0⟩ ⟨1⟩ 0
    fun _ _ => rfl⟩

end Process

end Rpi4Hal.Bluetooth
