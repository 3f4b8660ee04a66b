import Rpi4Hal.Ndk

/-! The state of the Bluetooth HCI HAL (`BluetoothHci` with its
`BluetoothDeathRecipient`), the parts of the binder runtime and of the kernel its
code acts on, and the statements of `initialize`, `close`, `send` and `serviceDied`
one at a time. Each section under `mStateMutex` and each unlocked statement between
two of them is one function here; the sequential calls (`Session`) and the thread
interleavings (`Threads`) are both built from these functions.

An abort of the process (`LOG_ALWAYS_FATAL`, or a dereference of a null pointer) is
an `Except.error` carrying the fatal message. `NetBluetoothMgmt::openHci` and
`closeHci` are not among the sources; they are modelled from the spec. -/

namespace Rpi4Hal.Bluetooth

/-- `HalState`. -/
inductive HalState where
  | READY
  | INITIALIZING
  | ONE_CLIENT
  | CLOSING
  deriving DecidableEq, Repr

/-- `PacketType` of the H4 framing. -/
inductive PacketType where
  | COMMAND
  | ACL_DATA
  | SCO_DATA
  | EVENT
  | ISO_DATA
  deriving DecidableEq, Repr

/-- The `Status` values the HAL passes to `initializationComplete`. -/
inductive Status where
  | SUCCESS
  | ALREADY_INITIALIZED
  | UNABLE_TO_OPEN_INTERFACE
  deriving DecidableEq, Repr

/-- A client's `IBluetoothHciCallbacks` binder, by identity. -/
structure Client where
  id : Nat
  deriving DecidableEq, Repr

/-- A `NetBluetoothMgmt` object, by the descriptor `bt_fd_` it holds. -/
structure NetBluetoothMgmt where
  btFd : Int
  deriving DecidableEq, Repr

/-- The HAL object and what its code acts on outside it. `mH4` is the descriptor the
`H4Protocol` object was built on and `watched` the descriptor `mFdWatcher` watches;
`deathCb` and `hasDied` are the death recipient's `mCb` and `has_died_`. `links` are
the binder death links whose cookie is the death recipient, `dead` the clients whose
binder has died, and `openFds` the HCI descriptors open in the kernel. -/
structure BluetoothHci where
  mState : HalState
  mCb : Option Client
  mFd : Int
  management : Option NetBluetoothMgmt
  mH4 : Option Int
  watched : Option Int
  deathCb : Option Client
  hasDied : Bool
  links : List Client
  dead : List Client
  openFds : List Int
  deriving DecidableEq, Repr

/-- A call the HAL makes: a callback to a client, or one packet written to the device
(`mH4->Send`). A received packet goes to the callback its type names
(`hciEventReceived`, `aclDataReceived`, `scoDataReceived`, `isoDataReceived`). -/
inductive Effect where
  | initializationComplete (cb : Client) (status : Status)
  | send (fd : Int) (type : PacketType) (packet : List UInt8)
  | packetReceived (cb : Client) (type : PacketType) (packet : List UInt8)
  deriving DecidableEq, Repr

/-- What `~NetBluetoothMgmt` leaves open: it closes `bt_fd_`. -/
def closeMgmt : Option NetBluetoothMgmt → List Int → List Int
  | some m, fds => fds.erase m.btFd
  | none, fds => fds

@[simp] theorem closeMgmt_nil (m : Option NetBluetoothMgmt) : closeMgmt m [] = [] := by
  cases m <;> rfl

theorem map_eq_ok {α β : Type} {f : α → β} {x : Except String α} {b : β}
    (h : x.map f = .ok b) : ∃ a, x = .ok a ∧ f a = b := by
  cases x with
  | error e => cases h
  | ok a => exact ⟨a, rfl, Except.ok.inj h⟩

namespace BluetoothHci

/-- The object the constructor builds: no client, no device. -/
def initial : BluetoothHci :=
  ⟨.READY, none, -1, none, none, none, none, false, [], [], []⟩

/-! ### `initialize` -/

/-- The first locked section: the state seen, and `INITIALIZING` taken from `READY`. -/
def initEnter (s : BluetoothHci) : HalState × BluetoothHci :=
  if s.mState ≠ .READY then (s.mState, s) else (.READY, { s with mState := .INITIALIZING })

/-- `mCb = cb`. -/
@[simp] def setCb (c : Client) (s : BluetoothHci) : BluetoothHci := { s with mCb := some c }

/-- `management_.reset(new NetBluetoothMgmt)`. -/
@[simp] def resetManagement (s : BluetoothHci) : BluetoothHci :=
  { s with management := some ⟨-1⟩, openFds := closeMgmt s.management s.openFds }

theorem resetManagement_management (s : BluetoothHci) :
    (resetManagement s).management = some ⟨-1⟩ := rfl

/-- Modelled from the spec: `mFd = management_->openHci()`. The device is opened and
its descriptor returned, or a negative value is returned and nothing is opened;
`opened` is the value returned. -/
@[simp] def openHci (opened : Int) (s : BluetoothHci) : BluetoothHci :=
  if opened < 0 then { s with mFd := opened }
  else { s with mFd := opened, management := some ⟨opened⟩, openFds := opened :: s.openFds }

/-- `management_.reset()` after a failed open. -/
@[simp] def dropManagement (s : BluetoothHci) : BluetoothHci :=
  { s with management := none, openFds := closeMgmt s.management s.openFds }

/-- `mState = HalState::READY`, written without the lock after a failed open. -/
@[simp] def setReady (s : BluetoothHci) : BluetoothHci := { s with mState := .READY }

/-- `mDeathRecipient->LinkToDeath(mCb)`: the recipient takes the callback and a death
link is registered on its binder. `AIBinder_linkToDeath` fails on a dead binder, and
the HAL aborts. -/
def linkToDeath (s : BluetoothHci) : Except String BluetoothHci :=
  match s.mCb with
  | none => .error "null mCb"
  | some c =>
    if c ∈ s.dead then .error "Unable to link to death recipient"
    else .ok { s with deathCb := some c, links := c :: s.links }

/-- `mH4 = std::make_shared<H4Protocol>(mFd, …)`. -/
@[simp] def makeH4 (s : BluetoothHci) : BluetoothHci := { s with mH4 := some s.mFd }

/-- `mFdWatcher.WatchFdForNonBlockingReads(mFd, …)`. -/
@[simp] def watch (s : BluetoothHci) : BluetoothHci := { s with watched := some s.mFd }

/-- The second locked section: `mState = HalState::ONE_CLIENT`. -/
@[simp] def initExit (s : BluetoothHci) : BluetoothHci := { s with mState := .ONE_CLIENT }

/-! ### `close` -/

/-- The first locked section: `none` when `close` returns at once ("Already closed"),
an abort on `INITIALIZING`, otherwise `CLOSING` taken from `ONE_CLIENT`. -/
def closeEnter (s : BluetoothHci) : Except String (Option BluetoothHci) :=
  if s.mState ≠ .ONE_CLIENT then
    if s.mState = .INITIALIZING then .error "mState is INITIALIZING" else .ok none
  else .ok (some { s with mState := .CLOSING })

/-- `mFdWatcher.StopWatchingFileDescriptors()`. -/
@[simp] def stopWatching (s : BluetoothHci) : BluetoothHci := { s with watched := none }

/-- Modelled from the spec: `management_->closeHci()` closes the descriptor `openHci`
opened. -/
def closeHci (s : BluetoothHci) : Except String BluetoothHci :=
  match s.management with
  | none => .error "null management_"
  | some m => .ok { s with management := some ⟨-1⟩, openFds := s.openFds.erase m.btFd }

/-- The second locked section: `mState = READY; mH4 = nullptr`. -/
@[simp] def closeExit (s : BluetoothHci) : BluetoothHci := { s with mState := .READY, mH4 := none }

/-! ### `send`, `serviceDied` and the fd watcher -/

/-- The locked section of `send`: `mH4->Send(type, v)` when there is an `H4Protocol`. -/
def sendLocked (type : PacketType) (v : List UInt8) (s : BluetoothHci) :
    ScopedAStatus × List Effect :=
  match s.mH4 with
  | none => (.fromExceptionCode .EX_ILLEGAL_STATE, [])
  | some fd => (.ok, [.send fd type v])

/-- The test at the head of `serviceDied`: the recipient holds a callback whose binder
is not alive. -/
def deathDetected (s : BluetoothHci) : Bool :=
  match s.deathCb with
  | some c => decide (c ∈ s.dead)
  | none => false

/-- `has_died_ = true`, under `mHasDiedMutex`. -/
@[simp] def setHasDied (s : BluetoothHci) : BluetoothHci := { s with hasDied := true }

/-- One packet decoded by `mH4->OnDataReady()`, which the watcher calls through `mH4`,
handed to the client callback of its type; a command packet aborts. -/
def packetReady (type : PacketType) (v : List UInt8) (s : BluetoothHci) :
    Except String (List Effect) :=
  match s.mH4, s.mCb with
  | none, _ => .error "null mH4"
  | some _, cb =>
    if type = .COMMAND then .error "Unexpected command!"
    else match cb with
      | none => .error "null mCb"
      | some c => .ok [.packetReceived c type v]

/-- `mH4->OnDataReady()` reads the end of the stream: the disconnect callback given to
`H4Protocol` stops the watcher, and nothing else. -/
def disconnected (s : BluetoothHci) : Except String BluetoothHci :=
  match s.mH4 with
  | none => .error "null mH4"
  | some _ => .ok (stopWatching s)

end BluetoothHci

end Rpi4Hal.Bluetooth
