import Rpi4Hal.Bluetooth.State

/-! The HAL's calls run one at a time: `initialize`, `close`, `send` and a client's
death run to completion with nothing in between, and the fd watcher's callback runs
between two calls. A call returns a `Reply` or aborts. What an external step does
(the value `openHci` returns, whether the client took `initializationComplete`) is an
argument of the call, so a run covers every outcome of them. -/

namespace Rpi4Hal.Bluetooth

/-- What a call leaves: the new state, the value returned to the caller, and the calls
the HAL made on the way. -/
structure Reply where
  hal : BluetoothHci
  ret : ScopedAStatus
  effects : List Effect

namespace BluetoothHci

/-- `close()` run alone. -/
def close (s : BluetoothHci) : Except String BluetoothHci :=
  match closeEnter s with
  | .error e => .error e
  | .ok none => .ok s
  | .ok (some s) => (closeHci (stopWatching s)).map closeExit

/-- `mCb->initializationComplete(Status::SUCCESS)` and what follows it: when the client
did not take the call, `close()` and `STATUS_FAILED_TRANSACTION`. `getHasDied()` is
only logged there. -/
def initComplete (delivered : Bool) (s : BluetoothHci) : Except String Reply :=
  match s.mCb with
  | none => .error "null mCb"
  | some c =>
    if delivered then .ok ⟨s, .ok, [.initializationComplete c .SUCCESS]⟩
    else (close s).map fun s' =>
      ⟨s', .fromServiceSpecificError .STATUS_FAILED_TRANSACTION, [.initializationComplete c .SUCCESS]⟩

/-- `send(type, v)`: an empty packet is refused before the lock is taken. -/
def send (type : PacketType) (v : List UInt8) (s : BluetoothHci) : ScopedAStatus × List Effect :=
  if v.isEmpty then (.fromExceptionCode .EX_ILLEGAL_ARGUMENT, []) else sendLocked type v s

def sendHciCommand (packet : List UInt8) (s : BluetoothHci) := send .COMMAND packet s

def sendAclData (packet : List UInt8) (s : BluetoothHci) := send .ACL_DATA packet s

def sendScoData (packet : List UInt8) (s : BluetoothHci) := send .SCO_DATA packet s

def sendIsoData (packet : List UInt8) (s : BluetoothHci) := send .ISO_DATA packet s

/-- `serviceDied()`: when the recipient's callback is dead, `has_died_` is set and the
HAL closed. -/
def serviceDied (s : BluetoothHci) : Except String BluetoothHci :=
  if s.deathDetected then close (setHasDied s) else .ok s

/-- `n` death notifications delivered one after another. -/
def serviceDiedTimes : Nat → BluetoothHci → Except String BluetoothHci
  | 0, s => .ok s
  | n + 1, s => (serviceDied s).bind (serviceDiedTimes n)

/-- The binder of `x` dies, and binder calls `OnDeath` once for each death link
registered on it; every link has the death recipient as its cookie. -/
def clientDied (x : Client) (s : BluetoothHci) : Except String BluetoothHci :=
  serviceDiedTimes (s.links.count x) { s with dead := x :: s.dead }

end BluetoothHci

/-- `initialize(cb)` run alone: `opened` is what `openHci` returns, `delivered` whether
the client took `initializationComplete(SUCCESS)`. -/
def BluetoothHci.initialize (cb : Option Client) (opened : Int) (delivered : Bool)
    (s : BluetoothHci) : Except String Reply :=
  match cb with
  | none => .ok ⟨s, .fromServiceSpecificError .STATUS_BAD_VALUE, []⟩
  | some c =>
    let r := initEnter s
    if r.1 ≠ .READY then
      (close r.2).map fun s => ⟨s, .ok, [.initializationComplete c .ALREADY_INITIALIZED]⟩
    else
      let s := openHci opened (resetManagement (setCb c r.2))
      if s.mFd < 0 then
        .ok ⟨setReady (dropManagement s), .ok, [.initializationComplete c .UNABLE_TO_OPEN_INTERFACE]⟩
      else
        match linkToDeath s with
        | .error e => .error e
        | .ok s => initComplete delivered (initExit (watch (makeH4 s)))

/-- One step of a run: a call of the HAL with the outcome of its external steps, a
client's death, or the fd watcher's callback (only while the watcher is active). `init`
is a call of `initialize`. -/
inductive Op where
  | init (cb : Option Client) (opened : Int) (delivered : Bool)
  | close
  | send (type : PacketType) (v : List UInt8)
  | clientDied (x : Client)
  | packetReady (type : PacketType) (v : List UInt8)
  | disconnected
  deriving DecidableEq, Repr

namespace BluetoothHci

def step (s : BluetoothHci) : Op → Except String Reply
  | .init cb opened delivered => s.initialize cb opened delivered
  | .close => (close s).map (⟨·, .ok, []⟩)
  | .send type v => .ok ⟨s, (send type v s).1, (send type v s).2⟩
  | .clientDied x => (clientDied x s).map (⟨·, .ok, []⟩)
  | .packetReady type v =>
    if s.watched.isSome then (packetReady type v s).map (⟨s, .ok, ·⟩) else .ok ⟨s, .ok, []⟩
  | .disconnected =>
    if s.watched.isSome then (disconnected s).map (⟨·, .ok, []⟩) else .ok ⟨s, .ok, []⟩

/-- The states between two steps of a run from the constructor that has not aborted. -/
inductive Reachable : BluetoothHci → Prop where
  | initial : Reachable initial
  | step {s : BluetoothHci} {op : Op} {r : Reply} : Reachable s → step s op = .ok r → Reachable r.hal

/-- Runs `ops` from `s`: the state after the last step, or the first abort. -/
def run (s : BluetoothHci) : List Op → Except String BluetoothHci
  | [] => .ok s
  | op :: ops => (step s op).bind fun r => run r.hal ops

theorem Reachable.of_run {s s' : BluetoothHci} (ops : List Op) (h : Reachable s)
    (hr : run s ops = .ok s') : Reachable s' := by
  induction ops generalizing s with
  | nil => cases hr; exact h
  | cons op ops ih =>
    cases hs : BluetoothHci.step s op with
    | error e => rw [run, hs] at hr; cases hr
    | ok r => rw [run, hs] at hr; exact ih (h.step hs) hr

/-- The session a state holds: everything but the death recipient and what the binder
runtime records. -/
def session (s : BluetoothHci) :=
  (s.mState, s.mCb, s.mFd, s.management, s.mH4, s.watched, s.openFds)

/-! ### `close` -/

/-- The state a session leaves after `close` released its descriptor `fd`. -/
def closed (s : BluetoothHci) (fd : Int) : BluetoothHci :=
  { s with mState := .READY, mH4 := none, watched := none, management := some ⟨-1⟩,
           openFds := s.openFds.erase fd }

theorem close_of_ready {s : BluetoothHci} (h : s.mState = .READY) : close s = .ok s := by
  simp [close, closeEnter, h]

theorem close_of_initializing {s : BluetoothHci} (h : s.mState = .INITIALIZING) :
    close s = .error "mState is INITIALIZING" := by
  simp [close, closeEnter, h]

theorem close_of_oneClient {s : BluetoothHci} {m : NetBluetoothMgmt}
    (h : s.mState = .ONE_CLIENT) (hm : s.management = some m) :
    close s = .ok (closed s m.btFd) := by
  simp [close, closeEnter, closeHci, h, hm, closed, Except.map]

/-! ### `initialize` -/

/-- The session `initialize` has set up when it reaches its second locked section:
`openHci` returned `fd` and `c` is linked. -/
def opened (s : BluetoothHci) (c : Client) (fd : Int) : BluetoothHci :=
  { s with mState := .ONE_CLIENT, mCb := some c, mFd := fd, management := some ⟨fd⟩,
           mH4 := some fd, watched := some fd, deathCb := some c, links := c :: s.links,
           openFds := [fd] }

variable {s : BluetoothHci} {c : Client} {o : Int}

theorem initialize_of_ne_ready (h : s.mState ≠ .READY) (d : Bool) :
    s.initialize (some c) o d =
      (close s).map fun s => ⟨s, .ok, [.initializationComplete c .ALREADY_INITIALIZED]⟩ := by
  simp [initEnter, h, BluetoothHci.initialize]

theorem initialize_of_open_failed (h : s.mState = .READY) (hf : s.openFds = []) (ho : o < 0)
    (d : Bool) :
    s.initialize (some c) o d = .ok ⟨{ s with mCb := some c, mFd := o, management := none },
      .ok, [.initializationComplete c .UNABLE_TO_OPEN_INTERFACE]⟩ := by
  cases s
  simp_all [initEnter, BluetoothHci.initialize]

theorem initialize_of_link_failed (h : s.mState = .READY) (ho : 0 ≤ o) (hc : c ∈ s.dead)
    (d : Bool) : s.initialize (some c) o d = .error "Unable to link to death recipient" := by
  simp [initEnter, h, Int.not_lt.mpr ho, linkToDeath, hc, BluetoothHci.initialize]

theorem initialize_of_opened (h : s.mState = .READY) (hf : s.openFds = []) (ho : 0 ≤ o)
    (hc : c ∉ s.dead) (d : Bool) : s.initialize (some c) o d = initComplete d (opened s c o) := by
  simp [initEnter, h, Int.not_lt.mpr ho, linkToDeath, hc, hf, opened, BluetoothHci.initialize]

theorem initComplete_opened (d : Bool) :
    initComplete d (opened s c o) = .ok (if d then
      ⟨opened s c o, .ok, [.initializationComplete c .SUCCESS]⟩ else
      ⟨closed (opened s c o) o, .fromServiceSpecificError .STATUS_FAILED_TRANSACTION,
        [.initializationComplete c .SUCCESS]⟩) := by
  have hcb : (opened s c o).mCb = some c := rfl
  cases d <;> simp [initComplete, hcb, close_of_oneClient (s := opened s c o) rfl rfl, Except.map]

end BluetoothHci

end Rpi4Hal.Bluetooth
