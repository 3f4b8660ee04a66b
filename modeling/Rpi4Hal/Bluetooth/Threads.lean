import Rpi4Hal.Bluetooth.Session

/-! The HAL's calls as threads that interleave. A thread runs one of `initialize`,
`close`, `send` or a death notification (`OnDeath` → `serviceDied`), and its atomic
steps are the sections under `mStateMutex` and the unlocked statements between them,
each one of the statement functions of `State`. Any number of client threads may be
started at any time; a client's death makes binder owe one notification per death link
on that client, and binder hands each to a thread of its own when it likes. The fd
watcher's callback is one more atomic step. A statement that only makes a callback is
run together with the statement before it, since it touches no shared state. -/

namespace Rpi4Hal.Bluetooth

open BluetoothHci

/-- The statement an `initialize` thread runs next. -/
inductive InitPc where
  | enter
  | setCb
  | resetManagement
  | openHci
  | dropManagement
  | setReady
  | linkToDeath
  | makeH4
  | watch
  | exit
  | complete
  deriving DecidableEq, Repr

/-- The statement a `close` runs next. -/
inductive ClosePc where
  | enter
  | stopWatching
  | closeHci
  | exit
  deriving DecidableEq, Repr

/-- Who called a `close()`, and so what happens when it returns: a client or
`serviceDied` returns, `initialize` on a state that was not `READY` reports
`ALREADY_INITIALIZED`, and `initialize` after an undelivered callback returns
`STATUS_FAILED_TRANSACTION`. -/
inductive AfterClose where
  | ret
  | alreadyInitialized (c : Client)
  | failedTransaction
  deriving DecidableEq, Repr

/-- The statement a death notification runs next. -/
inductive DiedPc where
  | check
  | setHasDied
  deriving DecidableEq, Repr

/-- A thread: idle, in the middle of a call, or returned. -/
inductive Thread where
  | idle
  | init (c : Client) (opened : Int) (delivered : Bool) (pc : InitPc)
  | closing (pc : ClosePc) (after : AfterClose)
  | send (type : PacketType) (v : List UInt8)
  | serviceDied (pc : DiedPc)
  | done (ret : ScopedAStatus)
  deriving DecidableEq, Repr

/-- A call a client makes on a thread of its own. -/
inductive Call where
  | init (cb : Option Client) (opened : Int) (delivered : Bool)
  | close
  | send (type : PacketType) (v : List UInt8)
  deriving DecidableEq, Repr

/-- The thread a call starts; `initialize` with a null callback returns at once. -/
def Call.start : Call → Thread
  | .init none _ _ => .done (.fromServiceSpecificError .STATUS_BAD_VALUE)
  | .init (some c) o d => .init c o d .enter
  | .close => .closing .enter .ret
  | .send type v => .send type v

/-- What a thread is when its `close()` returns, and the callback it then makes. -/
def AfterClose.finish : AfterClose → Thread × List Effect
  | .ret => (.done .ok, [])
  | .alreadyInitialized c => (.done .ok, [.initializationComplete c .ALREADY_INITIALIZED])
  | .failedTransaction => (.done (.fromServiceSpecificError .STATUS_FAILED_TRANSACTION), [])

/-- One atomic step of an `initialize` thread. -/
def initStep (c : Client) (o : Int) (d : Bool) :
    InitPc → BluetoothHci → Except String (Thread × BluetoothHci × List Effect)
  | .enter, s =>
    let r := initEnter s
    if r.1 ≠ .READY then .ok (.closing .enter (.alreadyInitialized c), r.2, [])
    else .ok (.init c o d .setCb, r.2, [])
  | .setCb, s => .ok (.init c o d .resetManagement, setCb c s, [])
  | .resetManagement, s => .ok (.init c o d .openHci, resetManagement s, [])
  | .openHci, s =>
    match s.management with
    | none => .error "null management_"
    | some _ =>
      .ok (.init c o d (if (openHci o s).mFd < 0 then .dropManagement else .linkToDeath), openHci o s, [])
  | .dropManagement, s => .ok (.init c o d .setReady, dropManagement s, [])
  | .setReady, s => .ok (.done .ok, setReady s, [.initializationComplete c .UNABLE_TO_OPEN_INTERFACE])
  | .linkToDeath, s => (linkToDeath s).map fun s => (.init c o d .makeH4, s, [])
  | .makeH4, s => .ok (.init c o d .watch, makeH4 s, [])
  | .watch, s => .ok (.init c o d .exit, watch s, [])
  | .exit, s => .ok (.init c o d .complete, initExit s, [])
  | .complete, s =>
    match s.mCb with
    | none => .error "null mCb"
    | some c' =>
      .ok (if d then .done .ok else .closing .enter .failedTransaction, s,
        [.initializationComplete c' .SUCCESS])

/-- The `openHci` statement aborts on a null `management_` and otherwise calls it. -/
theorem initStep_openHci {c : Client} {o : Int} {d : Bool} {s : BluetoothHci}
    {r : Thread × BluetoothHci × List Effect} (h : initStep c o d .openHci s = .ok r) :
    s.management.isSome ∧
      r = (.init c o d (if (openHci o s).mFd < 0 then .dropManagement else .linkToDeath), openHci o s, []) := by
  simp only [initStep] at h
  split at h
  · cases h
  · next hm => exact ⟨by rw [hm]; rfl, (Except.ok.inj h).symm⟩

/-- One atomic step of a `close()`. -/
def closeStep (after : AfterClose) :
    ClosePc → BluetoothHci → Except String (Thread × BluetoothHci × List Effect)
  | .enter, s =>
    match closeEnter s with
    | .error e => .error e
    | .ok none => .ok (after.finish.1, s, after.finish.2)
    | .ok (some s) => .ok (.closing .stopWatching after, s, [])
  | .stopWatching, s => .ok (.closing .closeHci after, stopWatching s, [])
  | .closeHci, s => (closeHci s).map fun s => (.closing .exit after, s, [])
  | .exit, s => .ok (after.finish.1, closeExit s, after.finish.2)

/-- One atomic step of a thread; an idle or returned thread does nothing. -/
def Thread.step : Thread → BluetoothHci → Except String (Thread × BluetoothHci × List Effect)
  | .init c o d pc, s => initStep c o d pc s
  | .closing pc after, s => closeStep after pc s
  | .send type v, s =>
    if v.isEmpty then .ok (.done (.fromExceptionCode .EX_ILLEGAL_ARGUMENT), s, [])
    else .ok (.done (sendLocked type v s).1, s, (sendLocked type v s).2)
  | .serviceDied .check, s => .ok (if s.deathDetected then .serviceDied .setHasDied else .done .ok, s, [])
  | .serviceDied .setHasDied, s => .ok (.closing .enter .ret, setHasDied s, [])
  | t, s => .ok (t, s, [])

/-- The HAL's process: the HAL object, its threads by number, and the death
notifications binder still owes. -/
structure Process where
  hal : BluetoothHci
  threads : Nat → Thread
  pending : Nat

/-- What can happen next in the process. -/
inductive Event where
  | call (i : Nat) (call : Call)
  | run (i : Nat)
  | clientDied (x : Client)
  | deliver (i : Nat)
  | packetReady (type : PacketType) (v : List UInt8)
  | disconnected
  deriving DecidableEq, Repr

namespace Process

def initial : Process := ⟨BluetoothHci.initial, fun _ => .idle, 0⟩

/-- One event. A call needs an idle thread, a delivery an idle thread and an owed
notification, a watcher event an active watcher; otherwise nothing happens. -/
def next (p : Process) : Event → Except String (Process × List Effect)
  | .call i call =>
    if p.threads i = .idle then .ok ({ p with threads := Function.update p.threads i call.start }, [])
    else .ok (p, [])
  | .run i =>
    (Thread.step (p.threads i) p.hal).map fun r =>
      ({ p with hal := r.2.1, threads := Function.update p.threads i r.1 }, r.2.2)
  | .clientDied x =>
    .ok ({ p with hal := { p.hal with dead := x :: p.hal.dead },
                  pending := p.pending + p.hal.links.count x }, [])
  | .deliver i =>
    if p.threads i = .idle ∧ 0 < p.pending then
      .ok ({ p with threads := Function.update p.threads i (.serviceDied .check),
                    pending := p.pending - 1 }, [])
    else .ok (p, [])
  | .packetReady type v =>
    if p.hal.watched.isSome then (packetReady type v p.hal).map (p, ·) else .ok (p, [])
  | .disconnected =>
    if p.hal.watched.isSome then (disconnected p.hal).map ({ p with hal := · }, []) else .ok (p, [])

/-- The processes an interleaving reaches without aborting. -/
inductive Reachable : Process → Prop where
  | initial : Reachable initial
  | next {p p' : Process} {e : Event} {es : List Effect} :
      Reachable p → next p e = .ok (p', es) → Reachable p'

/-- Runs `events` from `p`: the process after the last one, or the first abort. -/
def run (p : Process) : List Event → Except String Process
  | [] => .ok p
  | e :: events => (next p e).bind fun r => run r.1 events

/-- Runs `events` from `p` and keeps the effects: the process after the last one and the
callbacks and writes of every event in order, or the first abort. -/
def runLog (p : Process) : List Event → Except String (Process × List Effect)
  | [] => .ok (p, [])
  | e :: events => (next p e).bind fun r => (runLog r.1 events).map fun r' => (r'.1, r.2 ++ r'.2)

theorem runLog_fst (p : Process) (events : List Event) :
    (runLog p events).map Prod.fst = run p events := by
  induction events generalizing p with
  | nil => rfl
  | cons e events ih =>
    simp only [runLog, run]
    rcases next p e with _ | ⟨p', es⟩
    · rfl
    · simp only [Except.bind, ← ih p']
      cases runLog p' events <;> rfl

theorem run_append (p : Process) (events events' : List Event) :
    run p (events ++ events') = (run p events).bind fun p' => run p' events' := by
  induction events generalizing p with
  | nil => rfl
  | cons e events ih =>
    simp only [List.cons_append, run]
    rcases next p e with _ | ⟨p', es⟩
    · rfl
    · exact ih p'

theorem Reachable.of_run {p p' : Process} (events : List Event) (h : Reachable p)
    (hr : run p events = .ok p') : Reachable p' := by
  induction events generalizing p with
  | nil => cases hr; exact h
  | cons e events ih =>
    cases hn : Process.next p e with
    | error msg => rw [run, hn] at hr; cases hr
    | ok r => rw [run, hn] at hr; exact ih (h.next hn) hr

end Process

end Rpi4Hal.Bluetooth
