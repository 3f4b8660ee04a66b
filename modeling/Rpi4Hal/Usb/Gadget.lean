import Rpi4Hal.Ndk

/-! The USB gadget HAL (`UsbGadget`). A request to switch the gadget's functions
(`setCurrentUsbFunctions`) stores the request, tears the gadget down, checks the
combination against the table of vendor and product ids, links the functions and pulls
the gadget up, at once or through the FFS monitor. What the configfs helpers, the
pull-up file and the monitor answer during one request is an argument (`Configfs`), and
the `GadgetFunction` constants are a parameter. Proved: with a callback a request calls
`setCurrentUsbFunctionsCb` exactly once, with a truthful status; it leaves the flag
`mCurrentUsbFunctionsApplied` set only after its own pull-up or a notification of a
monitor that ran when it began; and it never returns `ok`. -/

namespace Rpi4Hal.Usb

/-- The `GadgetFunction` bits of the AIDL interface, which the sources use but do not
define. -/
structure GadgetFunction where
  NONE : UInt64
  ADB : UInt64
  ACCESSORY : UInt64
  MTP : UInt64
  MIDI : UInt64
  PTP : UInt64
  RNDIS : UInt64
  AUDIO_SOURCE : UInt64
  NCM : UInt64

/-- The values `android.hardware.usb.gadget.GadgetFunction` gives them, for concrete
runs. -/
def GadgetFunction.aidl : GadgetFunction := ⟨0, 1, 2, 4, 8, 16, 32, 64, 1024⟩

/-- `Status` of the gadget HAL. -/
inductive Status where
  | SUCCESS
  | ERROR
  | FUNCTIONS_APPLIED
  | FUNCTIONS_NOT_APPLIED
  | CONFIGURATION_NOT_SUPPORTED
  deriving DecidableEq, Repr

/-- The `UsbSpeed` values `getUsbSpeed` reports. -/
inductive UsbSpeed where
  | UNKNOWN
  | LOWSPEED
  | FULLSPEED
  | HIGHSPEED
  | SUPERSPEED
  | SUPERSPEED_10Gb
  deriving DecidableEq, Repr

/-- A call of the client's `IUsbGadgetCallback`. -/
inductive Callback where
  | setCurrentUsbFunctionsCb (functions : UInt64) (status : Status) (transactionId : Int)
  | getCurrentUsbFunctionsCb (functions : UInt64) (status : Status) (transactionId : Int)
  | getUsbSpeedCb (speed : UsbSpeed) (transactionId : Int)
  | resetCb (status : Status) (transactionId : Int)
  deriving DecidableEq, Repr

/-- The HAL object. `monitorRunning` is `monitorFfs.isMonitorRunning()`, and
`monitorFor` the functions of the request whose `setupFunctions` started the monitor. -/
structure UsbGadget where
  mCurrentUsbFunctions : UInt64
  mCurrentUsbFunctionsApplied : Bool
  mUsbSpeed : UsbSpeed
  monitorRunning : Bool
  monitorFor : UInt64
  deriving DecidableEq, Repr

/-- What the configfs helpers, the pull-up file and the FFS monitor answer during one
request: `resetGadget()`, `setVidPid(vid, pid)`, `addGenericAndroidFunctions` with the
`ffsEnabled` it leaves, `addAdb`, the write of the gadget's name to the pull-up file,
and `waitForPullUp(timeout)`. `staleApplied` is the value a monitor still running from
an earlier request writes through its callback between the request's reset of
`mCurrentUsbFunctionsApplied` and `tearDownGadget` stopping it, if it fires there. -/
structure Configfs where
  resetGadget : Status
  setVidPid : String → String → Status
  addGenericAndroidFunctions : Status × Bool
  addAdb : Status
  pullUp : Bool
  waitForPullUp : Int → Bool
  staleApplied : Option Bool

/-- Every helper succeeds, the FFS daemons write their descriptors in time, and no
notification lands in a request's window. -/
def Configfs.succeeding : Configfs :=
  ⟨.SUCCESS, fun _ _ => .SUCCESS, (.SUCCESS, false), .SUCCESS, true, fun _ => true, none⟩

/-- The combinations of `validateAndSetVidPid`'s `switch`, in its order, with their
vendor and product ids. -/
def vidPidTable (gf : GadgetFunction) : List (UInt64 × String × String) :=
  [(gf.MTP, "0x18d1", "0x4ee1"),
   (gf.ADB ||| gf.MTP, "0x18d1", "0x4ee2"),
   (gf.RNDIS, "0x18d1", "0x4ee3"),
   (gf.ADB ||| gf.RNDIS, "0x18d1", "0x4ee4"),
   (gf.PTP, "0x18d1", "0x4ee5"),
   (gf.ADB ||| gf.PTP, "0x18d1", "0x4ee6"),
   (gf.ADB, "0x18d1", "0x4ee7"),
   (gf.MIDI, "0x18d1", "0x4ee8"),
   (gf.ADB ||| gf.MIDI, "0x18d1", "0x4ee9"),
   (gf.NCM, "0x18d1", "0x4eeb"),
   (gf.ADB ||| gf.NCM, "0x18d1", "0x4eec"),
   (gf.ACCESSORY, "0x18d1", "0x2d00"),
   (gf.ADB ||| gf.ACCESSORY, "0x18d1", "0x2d01"),
   (gf.AUDIO_SOURCE, "0x18d1", "0x2d02"),
   (gf.ADB ||| gf.AUDIO_SOURCE, "0x18d1", "0x2d03"),
   (gf.ACCESSORY ||| gf.AUDIO_SOURCE, "0x18d1", "0x2d04"),
   (gf.ADB ||| gf.ACCESSORY ||| gf.AUDIO_SOURCE, "0x18d1", "0x2d05")]

/-- `validateAndSetVidPid`: the ids of the first listed combination equal to
`functions`, or `CONFIGURATION_NOT_SUPPORTED`. -/
def validateAndSetVidPid (gf : GadgetFunction) (setVidPid : String → String → Status)
    (functions : UInt64) : Status :=
  match (vidPidTable gf).find? (·.1 == functions) with
  | some (_, vid, pid) => setVidPid vid pid
  | none => .CONFIGURATION_NOT_SUPPORTED

namespace UsbGadget

/-- `tearDownGadget()`: a failed `resetGadget()` returns at once, and the monitor keeps
running. -/
def tearDownGadget (resetGadget : Status) (g : UsbGadget) : Status × UsbGadget :=
  if resetGadget ≠ .SUCCESS then (.ERROR, g)
  else (.SUCCESS, if g.monitorRunning then { g with monitorRunning := false } else g)

/-- `ffsEnabled` of `setupFunctions` once the functions are added: left set by
`addGenericAndroidFunctions`, or set for `ADB`. -/
def ffsEnabled (gf : GadgetFunction) (env : Configfs) (functions : UInt64) : Bool :=
  env.addGenericAndroidFunctions.2 || functions &&& gf.ADB != 0

/-- `setupFunctions`: its status, the gadget, and the callbacks it made. -/
def setupFunctions (gf : GadgetFunction) (env : Configfs) (functions : UInt64) (callback : Bool)
    (timeout tid : Int) (g : UsbGadget) : Status × UsbGadget × List Callback :=
  if env.addGenericAndroidFunctions.1 ≠ .SUCCESS then (.ERROR, g, [])
  else if functions &&& gf.ADB ≠ 0 ∧ env.addAdb ≠ .SUCCESS then (.ERROR, g, [])
  else if !ffsEnabled gf env functions then
    if !env.pullUp then (.ERROR, g, [])
    else (.SUCCESS, { g with mCurrentUsbFunctionsApplied := true },
      if callback then [.setCurrentUsbFunctionsCb functions .SUCCESS tid] else [])
  else
    (.SUCCESS, { g with monitorRunning := true, monitorFor := functions },
      if callback then
        [.setCurrentUsbFunctionsCb functions (if env.waitForPullUp timeout then .SUCCESS else .ERROR) tid]
      else [])

/-- The `error:` label of `setCurrentUsbFunctions`. -/
def failed (functions : UInt64) (callback : Bool) (status : Status) (tid : Int) :
    List Callback × ScopedAStatus :=
  if !callback then ([], .fromServiceSpecificErrorWithMessage (-1) "Usb Gadget setcurrent functions failed")
  else ([.setCurrentUsbFunctionsCb functions status tid],
    .fromServiceSpecificErrorWithMessage (-1) "Error while calling setCurrentUsbFunctionsCb")

/-- A notification of the monitor lands: `currentFunctionsAppliedCallback`, only while
the monitor runs. -/
def functionsApplied (b : Bool) (g : UsbGadget) : UsbGadget :=
  if g.monitorRunning then { g with mCurrentUsbFunctionsApplied := b } else g

/-- The writes `setCurrentUsbFunctions` makes before `tearDownGadget`, and the
notification of a monitor still running that may land after them. -/
def storeRequest (env : Configfs) (functions : UInt64) (g : UsbGadget) : UsbGadget :=
  let g := { g with mCurrentUsbFunctions := functions, mCurrentUsbFunctionsApplied := false }
  match env.staleApplied with
  | some b => functionsApplied b g
  | none => g

/-- `setCurrentUsbFunctions`, under `mLockSetCurrentFunction`: the gadget, the callbacks
made, and the status returned. -/
def setCurrentUsbFunctions (gf : GadgetFunction) (env : Configfs) (functions : UInt64)
    (callback : Bool) (timeoutMs tid : Int) (g : UsbGadget) :
    UsbGadget × List Callback × ScopedAStatus :=
  let t := tearDownGadget env.resetGadget (storeRequest env functions g)
  if t.1 ≠ .SUCCESS then (t.2, failed functions callback t.1 tid)
  else if functions = gf.NONE then
    if !callback then (t.2, [], .fromServiceSpecificErrorWithMessage (-1) "callback == NULL")
    else (t.2, [.setCurrentUsbFunctionsCb functions .SUCCESS tid],
      .fromServiceSpecificErrorWithMessage (-1) "Error while calling setCurrentUsbFunctionsCb")
  else
    let status := validateAndSetVidPid gf env.setVidPid functions
    if status ≠ .SUCCESS then (t.2, failed functions callback status tid)
    else
      let r := setupFunctions gf env functions callback timeoutMs tid t.2
      if r.1 ≠ .SUCCESS then (r.2.1, r.2.2 ++ (failed functions callback r.1 tid).1,
        (failed functions callback r.1 tid).2)
      else (r.2.1, r.2.2,
        .fromServiceSpecificErrorWithMessage (-1) "Usb Gadget setcurrent functions called successfully")

/-- `isspace` of the C locale: space, `\t`, `\n`, `\v`, `\f` and `\r`. -/
def isspace (ch : Char) : Bool :=
  ch = ' ' || ch = '\t' || ch = '\n' || ch = '\x0b' || ch = '\x0c' || ch = '\r'

/-- `android::base::Trim`: the string without its leading and trailing `isspace`
characters. -/
def trim (s : String) : String :=
  ⟨((s.data.dropWhile isspace).reverse.dropWhile isspace).reverse⟩

/-- The speed `getUsbSpeed` reads from the trimmed contents of `current_speed`. -/
def speedOf (currentSpeed : String) : UsbSpeed :=
  if currentSpeed = "low-speed" then .LOWSPEED
  else if currentSpeed = "full-speed" then .FULLSPEED
  else if currentSpeed = "high-speed" then .HIGHSPEED
  else if currentSpeed = "super-speed" then .SUPERSPEED
  else if currentSpeed = "super-speed-plus" then .SUPERSPEED_10Gb
  else if currentSpeed = "UNKNOWN" then .UNKNOWN
  else .UNKNOWN

/-- `getUsbSpeed`, given what `ReadFileToString(SPEED_PATH)` read, if it could. -/
def getUsbSpeed (read : Option String) (callback : Bool) (tid : Int) (g : UsbGadget) :
    UsbGadget × List Callback × ScopedAStatus :=
  let g := { g with mUsbSpeed := match read with
    | some currentSpeed => speedOf (trim currentSpeed)
    | none => .UNKNOWN }
  (g, if callback then [.getUsbSpeedCb g.mUsbSpeed tid] else [], .ok)

/-- `reset`, given whether the writes of `"none"` and of the gadget's name to the pull-up
file succeeded. -/
def reset (pullDown pullUp callback : Bool) (tid : Int) : List Callback × ScopedAStatus :=
  if !pullDown then
    (if callback then [.resetCb .ERROR tid] else [],
      .fromServiceSpecificErrorWithMessage (-1) "Error while calling resetCb")
  else if !pullUp then
    (if callback then [.resetCb .ERROR tid] else [],
      .fromServiceSpecificErrorWithMessage (-1) "Error while calling resetCb")
  else (if callback then [.resetCb .SUCCESS tid] else [], .ok)

/-- `getCurrentUsbFunctions`. -/
def getCurrentUsbFunctions (callback : Bool) (tid : Int) (g : UsbGadget) :
    List Callback × ScopedAStatus :=
  if !callback then ([], .fromExceptionCode .EX_NULL_POINTER)
  else ([.getCurrentUsbFunctionsCb g.mCurrentUsbFunctions
    (if g.mCurrentUsbFunctionsApplied then .FUNCTIONS_APPLIED else .FUNCTIONS_NOT_APPLIED) tid], .ok)

/-! ### The steps of a request -/

/-- The gadget was pulled up for `functions`: the functions were linked, and the pull-up
write succeeded when no FFS function is in them, `waitForPullUp` returned true
otherwise. -/
def PulledUp (gf : GadgetFunction) (env : Configfs) (functions : UInt64) (timeout : Int) : Prop :=
  env.addGenericAndroidFunctions.1 = .SUCCESS ∧ (functions &&& gf.ADB ≠ 0 → env.addAdb = .SUCCESS) ∧
    if ffsEnabled gf env functions then env.waitForPullUp timeout = true else env.pullUp = true

section
variable {gf : GadgetFunction} {env : Configfs} {functions : UInt64} {callback : Bool}
  {timeoutMs tid : Int} {g : UsbGadget}

@[simp] theorem functionsApplied_mCurrentUsbFunctions (b : Bool) :
    (functionsApplied b g).mCurrentUsbFunctions = g.mCurrentUsbFunctions := by
  unfold functionsApplied; split <;> rfl

@[simp] theorem functionsApplied_monitorRunning (b : Bool) :
    (functionsApplied b g).monitorRunning = g.monitorRunning := by
  unfold functionsApplied; split <;> rfl

@[simp] theorem functionsApplied_monitorFor (b : Bool) :
    (functionsApplied b g).monitorFor = g.monitorFor := by
  unfold functionsApplied; split <;> rfl

@[simp] theorem functionsApplied_applied (b : Bool) :
    (functionsApplied b g).mCurrentUsbFunctionsApplied =
      if g.monitorRunning then b else g.mCurrentUsbFunctionsApplied := by
  unfold functionsApplied; split <;> rfl

@[simp] theorem storeRequest_mCurrentUsbFunctions :
    (storeRequest env functions g).mCurrentUsbFunctions = functions := by
  cases h : env.staleApplied <;> simp [storeRequest, h]

@[simp] theorem storeRequest_monitorRunning :
    (storeRequest env functions g).monitorRunning = g.monitorRunning := by
  cases h : env.staleApplied <;> simp [storeRequest, h]

@[simp] theorem storeRequest_monitorFor :
    (storeRequest env functions g).monitorFor = g.monitorFor := by
  cases h : env.staleApplied <;> simp [storeRequest, h]

theorem storeRequest_applied (h : (storeRequest env functions g).mCurrentUsbFunctionsApplied = true) :
    g.monitorRunning = true ∧ env.staleApplied = some true := by
  cases hs : env.staleApplied <;> simp_all [storeRequest]

@[simp] theorem tearDownGadget_mCurrentUsbFunctions (r : Status) :
    (tearDownGadget r g).2.mCurrentUsbFunctions = g.mCurrentUsbFunctions := by
  unfold tearDownGadget; split_ifs <;> rfl

@[simp] theorem tearDownGadget_applied (r : Status) :
    (tearDownGadget r g).2.mCurrentUsbFunctionsApplied = g.mCurrentUsbFunctionsApplied := by
  unfold tearDownGadget; split_ifs <;> rfl

@[simp] theorem tearDownGadget_monitorFor (r : Status) :
    (tearDownGadget r g).2.monitorFor = g.monitorFor := by
  unfold tearDownGadget; split_ifs <;> rfl

@[simp] theorem tearDownGadget_monitorRunning (r : Status) :
    (tearDownGadget r g).2.monitorRunning = (r ≠ .SUCCESS && g.monitorRunning) := by
  unfold tearDownGadget; split_ifs <;> simp_all

@[simp] theorem tearDownGadget_fst (r : Status) :
    (tearDownGadget r g).1 = if r = .SUCCESS then .SUCCESS else .ERROR := by
  by_cases h : r = .SUCCESS <;> simp [tearDownGadget, h]

/-- What `setupFunctions` can do: fail with nothing changed and no callback, pull the
gadget up at once, or start the monitor. -/
theorem setupFunctions_cases (gf : GadgetFunction) (env : Configfs) (functions : UInt64)
    (callback : Bool) (timeoutMs tid : Int) (g : UsbGadget) :
    setupFunctions gf env functions callback timeoutMs tid g = (.ERROR, g, []) ∨
    (PulledUp gf env functions timeoutMs ∧ ffsEnabled gf env functions = false ∧
      setupFunctions gf env functions callback timeoutMs tid g =
        (.SUCCESS, { g with mCurrentUsbFunctionsApplied := true },
          if callback then [.setCurrentUsbFunctionsCb functions .SUCCESS tid] else [])) ∨
    ((env.waitForPullUp timeoutMs = true → PulledUp gf env functions timeoutMs) ∧
      setupFunctions gf env functions callback timeoutMs tid g =
        (.SUCCESS, { g with monitorRunning := true, monitorFor := functions },
          if callback then [.setCurrentUsbFunctionsCb functions
            (if env.waitForPullUp timeoutMs then .SUCCESS else .ERROR) tid] else [])) := by
  unfold setupFunctions
  by_cases h1 : env.addGenericAndroidFunctions.1 = .SUCCESS
  case neg => exact .inl (if_pos h1)
  by_cases h2 : functions &&& gf.ADB ≠ 0 ∧ env.addAdb ≠ .SUCCESS
  · exact .inl (by rw [if_neg (not_not.mpr h1), if_pos h2])
  simp only [if_neg (not_not.mpr h1), if_neg h2]
  have linked (h : functions &&& gf.ADB ≠ 0) : env.addAdb = .SUCCESS := by
    by_contra h'; exact h2 ⟨h, h'⟩
  cases hf : ffsEnabled gf env functions
  · cases hu : env.pullUp
    · exact .inl rfl
    · exact .inr (.inl ⟨⟨h1, linked, by simp [hf, hu]⟩, rfl, rfl⟩)
  · exact .inr (.inr ⟨fun hw => ⟨h1, linked, by simp [hf, hw]⟩, rfl⟩)

theorem setupFunctions_mCurrentUsbFunctions :
    (setupFunctions gf env functions callback timeoutMs tid g).2.1.mCurrentUsbFunctions =
      g.mCurrentUsbFunctions := by
  rcases setupFunctions_cases gf env functions callback timeoutMs tid g with h | ⟨-, -, h⟩ | ⟨-, h⟩ <;>
    rw [h]

theorem setupFunctions_applied
    (h : (setupFunctions gf env functions callback timeoutMs tid g).2.1.mCurrentUsbFunctionsApplied = true) :
    g.mCurrentUsbFunctionsApplied = true ∨
      (PulledUp gf env functions timeoutMs ∧ ffsEnabled gf env functions = false) := by
  rcases setupFunctions_cases gf env functions callback timeoutMs tid g with hs | ⟨hp, hf, -⟩ | ⟨-, hs⟩
  · exact .inl (by rwa [hs] at h)
  · exact .inr ⟨hp, hf⟩
  · exact .inl (by rwa [hs] at h)

theorem setupFunctions_monitor
    (h : (setupFunctions gf env functions callback timeoutMs tid g).2.1.monitorRunning = true) :
    (g.monitorRunning = true ∧ (setupFunctions gf env functions callback timeoutMs tid g).2.1.monitorFor = g.monitorFor) ∨
      (setupFunctions gf env functions callback timeoutMs tid g).2.1.monitorFor = functions := by
  rcases setupFunctions_cases gf env functions callback timeoutMs tid g with hs | ⟨-, -, hs⟩ | ⟨-, hs⟩ <;>
    rw [hs] at h ⊢
  · exact .inl ⟨h, rfl⟩
  · exact .inl ⟨h, rfl⟩
  · exact .inr rfl

theorem setCurrentUsbFunctions_gadget :
    (setCurrentUsbFunctions gf env functions callback timeoutMs tid g).1 =
      if env.resetGadget = .SUCCESS ∧ functions ≠ gf.NONE ∧
          validateAndSetVidPid gf env.setVidPid functions = .SUCCESS
      then (setupFunctions gf env functions callback timeoutMs tid
        (tearDownGadget env.resetGadget (storeRequest env functions g)).2).2.1
      else (tearDownGadget env.resetGadget (storeRequest env functions g)).2 := by
  unfold setCurrentUsbFunctions
  by_cases ht : env.resetGadget = .SUCCESS
  case neg => simp [ht]
  by_cases hn : functions = gf.NONE
  · simp only [tearDownGadget_fst, ht, hn, if_true, ne_eq, not_true_eq_false, and_false, if_false]
    split <;> rfl
  by_cases hv : validateAndSetVidPid gf env.setVidPid functions = .SUCCESS
  · simp only [tearDownGadget_fst, ht, hn, hv, if_true, ne_eq, not_false_eq_true, and_self, if_false,
      not_true_eq_false]
    split <;> rfl
  · simp [ht, hn, hv]

end

/-! ### The callback of one request -/

/-- What the status a request reports tells: `SUCCESS` only after a successful teardown,
for `NONE` or with the gadget pulled up for the functions, and for a combination other
than `NONE` that the table does not list, `CONFIGURATION_NOT_SUPPORTED` or the teardown's
`ERROR`. -/
structure Truthful (gf : GadgetFunction) (env : Configfs) (functions : UInt64) (timeoutMs : Int)
    (status : Status) : Prop where
  success : status = .SUCCESS →
    (functions = gf.NONE ∧ env.resetGadget = .SUCCESS) ∨
    (env.resetGadget = .SUCCESS ∧ PulledUp gf env functions timeoutMs)
  unsupported : functions ≠ gf.NONE → functions ∉ (vidPidTable gf).map (·.1) →
    status = .CONFIGURATION_NOT_SUPPORTED ∨ (status = .ERROR ∧ env.resetGadget ≠ .SUCCESS)

theorem validateAndSetVidPid_of_not_mem {gf : GadgetFunction} {functions : UInt64}
    (setVidPid : String → String → Status) (h : functions ∉ (vidPidTable gf).map (·.1)) :
    validateAndSetVidPid gf setVidPid functions = .CONFIGURATION_NOT_SUPPORTED := by
  have : (vidPidTable gf).find? (·.1 == functions) = none :=
    List.find?_eq_none.mpr fun x hx he => h (List.mem_map.mpr ⟨x, hx, by simpa using he⟩)
  simp [validateAndSetVidPid, this]

/-- The callback `setCurrentUsbFunctionsCb` with `status`, when there is a callback. -/
def answer (functions : UInt64) (callback : Bool) (status : Status) (tid : Int) : List Callback :=
  if callback then [.setCurrentUsbFunctionsCb functions status tid] else []

@[simp] theorem failed_fst (functions : UInt64) (callback : Bool) (status : Status) (tid : Int) :
    (failed functions callback status tid).1 = answer functions callback status tid := by
  cases callback <;> rfl

/-- `setupFunctions` fails before any callback, or succeeds with its answer, whose
`SUCCESS` means the gadget was pulled up. -/
theorem setupFunctions_calls (gf : GadgetFunction) (env : Configfs) (functions : UInt64)
    (callback : Bool) (timeout tid : Int) (g : UsbGadget) :
    let r := setupFunctions gf env functions callback timeout tid g
    (r.1 = .ERROR ∧ r.2.2 = []) ∨
    (r.1 = .SUCCESS ∧ ∃ status, r.2.2 = answer functions callback status tid ∧
      (status = .SUCCESS → PulledUp gf env functions timeout)) := by
  rcases setupFunctions_cases gf env functions callback timeout tid g with hs | ⟨hp, -, hs⟩ | ⟨hw, hs⟩
  · simp [hs]
  · exact .inr ⟨by rw [hs], _, by rw [hs]; rfl, fun _ => hp⟩
  · exact .inr ⟨by rw [hs], _, by rw [hs]; rfl, fun h => hw (by simpa using h)⟩

/-- Every request answers once, through the callback if there is one, with a truthful
status. -/
theorem setCurrentUsbFunctions_answers (gf : GadgetFunction) (env : Configfs)
    (functions : UInt64) (callback : Bool) (timeoutMs tid : Int) (g : UsbGadget) :
    ∃ status, (setCurrentUsbFunctions gf env functions callback timeoutMs tid g).2.1 =
      answer functions callback status tid ∧ Truthful gf env functions timeoutMs status := by
  by_cases ht : env.resetGadget = .SUCCESS
  swap
  · exact ⟨.ERROR, by simp [setCurrentUsbFunctions, ht], by simp, fun _ _ => .inr ⟨rfl, ht⟩⟩
  by_cases hn : functions = gf.NONE
  · refine ⟨.SUCCESS, ?_, fun _ => .inl ⟨hn, ht⟩, fun h => absurd hn h⟩
    cases callback <;> simp [setCurrentUsbFunctions, ht, hn, answer]
  by_cases hv : validateAndSetVidPid gf env.setVidPid functions = .SUCCESS
  case neg =>
    exact ⟨_, by simp [setCurrentUsbFunctions, ht, hn, hv], fun h => absurd h hv,
      fun _ h => .inl (validateAndSetVidPid_of_not_mem env.setVidPid h)⟩
  have listed : ¬functions ∉ (vidPidTable gf).map (·.1) := fun h => by
    simp [validateAndSetVidPid_of_not_mem env.setVidPid h] at hv
  rcases setupFunctions_calls gf env functions callback timeoutMs tid
      (tearDownGadget .SUCCESS (storeRequest env functions g)).2 with ⟨hs, hc⟩ | ⟨hs, status, hc, hp⟩
  · exact ⟨.ERROR, by simp [setCurrentUsbFunctions, ht, hn, hv, hs, hc], by simp,
      fun _ h => absurd h listed⟩
  · exact ⟨status, by simp [setCurrentUsbFunctions, ht, hn, hv, hs, hc], fun h => .inr ⟨ht, hp h⟩,
      fun _ h => absurd h listed⟩

/-- With a callback, every request calls `setCurrentUsbFunctionsCb` exactly once, for the
requested functions, with a truthful status. -/
theorem setCurrentUsbFunctions_calls_back_once (gf : GadgetFunction) (env : Configfs)
    (functions : UInt64) (timeoutMs tid : Int) (g : UsbGadget) :
    ∃ status, (setCurrentUsbFunctions gf env functions true timeoutMs tid g).2.1 =
      [.setCurrentUsbFunctionsCb functions status tid] ∧ Truthful gf env functions timeoutMs status :=
  setCurrentUsbFunctions_answers gf env functions true timeoutMs tid g

/-! ### What a request leaves behind -/

/-- What one request leaves behind: the requested functions stored; the flag set only by
its own pull-up with no FFS function, or by a notification of a monitor already running
when it began; and a running monitor that is its own, or the old one when the teardown
failed. -/
structure RequestEffect (gf : GadgetFunction) (env : Configfs) (functions : UInt64)
    (timeoutMs : Int) (g g' : UsbGadget) : Prop where
  stored : g'.mCurrentUsbFunctions = functions
  applied : g'.mCurrentUsbFunctionsApplied = true →
    (env.resetGadget = .SUCCESS ∧ functions ≠ gf.NONE ∧
      validateAndSetVidPid gf env.setVidPid functions = .SUCCESS ∧ PulledUp gf env functions timeoutMs ∧
      ffsEnabled gf env functions = false) ∨
    (g.monitorRunning = true ∧ env.staleApplied = some true)
  monitor : g'.monitorRunning = true →
    (env.resetGadget = .SUCCESS ∧ g'.monitorFor = functions) ∨
    (env.resetGadget ≠ .SUCCESS ∧ g.monitorRunning = true ∧ g'.monitorFor = g.monitorFor)

theorem setCurrentUsbFunctions_effect (gf : GadgetFunction) (env : Configfs) (functions : UInt64)
    (callback : Bool) (timeoutMs tid : Int) (g : UsbGadget) :
    RequestEffect gf env functions timeoutMs g
      (setCurrentUsbFunctions gf env functions callback timeoutMs tid g).1 := by
  rw [setCurrentUsbFunctions_gadget]
  split_ifs with h
  · obtain ⟨ht, hn, hv⟩ := h
    refine ⟨by simp [setupFunctions_mCurrentUsbFunctions], fun ha => ?_, fun hm => ?_⟩
    · rcases setupFunctions_applied ha with ha | hp
      · exact .inr (storeRequest_applied (by simpa using ha))
      · exact .inl ⟨ht, hn, hv, hp⟩
    · rcases setupFunctions_monitor hm with ⟨hr, -⟩ | hf
      · simp [ht] at hr
      · exact .inl ⟨ht, hf⟩
  · refine ⟨by simp, fun ha => .inr (storeRequest_applied (by simpa using ha)), fun hm => ?_⟩
    have ht : env.resetGadget ≠ .SUCCESS := fun ht => by simp [ht] at hm
    exact .inr ⟨ht, by simpa [ht] using hm, by simp⟩

/-! ### The status a request returns -/

/-- `setupFunctions` fails only on a failed link of the functions or a failed pull-up
write; a `waitForPullUp` that times out does not make it fail. -/
theorem setupFunctions_status (gf : GadgetFunction) (env : Configfs) (functions : UInt64)
    (callback : Bool) (timeoutMs tid : Int) (g : UsbGadget) :
    (setupFunctions gf env functions callback timeoutMs tid g).1 = .SUCCESS ↔
      env.addGenericAndroidFunctions.1 = .SUCCESS ∧ (functions &&& gf.ADB ≠ 0 → env.addAdb = .SUCCESS) ∧
        (ffsEnabled gf env functions = false → env.pullUp = true) := by
  unfold setupFunctions
  by_cases h1 : env.addGenericAndroidFunctions.1 = .SUCCESS
  case neg => rw [if_pos h1]; exact iff_of_false nofun fun h => h1 h.1
  rw [if_neg (not_not.mpr h1)]
  by_cases h2 : functions &&& gf.ADB ≠ 0 ∧ env.addAdb ≠ .SUCCESS
  · rw [if_pos h2]; exact iff_of_false nofun fun h => h2.2 (h.2.1 h2.1)
  rw [if_neg h2]
  have linked (h : functions &&& gf.ADB ≠ 0) : env.addAdb = .SUCCESS := by
    by_contra h'; exact h2 ⟨h, h'⟩
  cases hf : ffsEnabled gf env functions
  · cases hu : env.pullUp
    · exact iff_of_false nofun fun h => Bool.false_ne_true (hu ▸ h.2.2 rfl)
    · exact iff_of_true rfl ⟨h1, linked, fun _ => rfl⟩
  · exact iff_of_true rfl ⟨h1, linked, nofun⟩

theorem failed_snd (functions : UInt64) (callback : Bool) (status : Status) (tid : Int) :
    ∃ message, (failed functions callback status tid).2 =
      .fromServiceSpecificErrorWithMessage (-1) message ∧
      message ≠ "Usb Gadget setcurrent functions called successfully" := by
  cases callback <;> exact ⟨_, rfl, by decide⟩

/-- `setCurrentUsbFunctions` never returns `ok`: whatever happens it returns the
service-specific error `-1`, and its message says the call succeeded exactly when the
teardown, the vendor and product ids and `setupFunctions` succeeded for functions other
than `NONE`, whether or not the gadget then came up. -/
theorem setCurrentUsbFunctions_status (gf : GadgetFunction) (env : Configfs)
    (functions : UInt64) (callback : Bool) (timeoutMs tid : Int) (g : UsbGadget) :
    ∃ message, (setCurrentUsbFunctions gf env functions callback timeoutMs tid g).2.2 =
      .fromServiceSpecificErrorWithMessage (-1) message ∧
      (message = "Usb Gadget setcurrent functions called successfully" ↔
        env.resetGadget = .SUCCESS ∧ functions ≠ gf.NONE ∧
        validateAndSetVidPid gf env.setVidPid functions = .SUCCESS ∧
        env.addGenericAndroidFunctions.1 = .SUCCESS ∧ (functions &&& gf.ADB ≠ 0 → env.addAdb = .SUCCESS) ∧
        (ffsEnabled gf env functions = false → env.pullUp = true)) := by
  by_cases ht : env.resetGadget = .SUCCESS
  case neg =>
    obtain ⟨m, hm, hne⟩ := failed_snd functions callback .ERROR tid
    exact ⟨m, by simp [setCurrentUsbFunctions, ht, hm], by simp [hne, ht]⟩
  by_cases hn : functions = gf.NONE
  · cases callback
    · exact ⟨"callback == NULL", by simp [setCurrentUsbFunctions, ht, hn],
        iff_of_false (by decide) fun h => h.2.1 hn⟩
    · exact ⟨"Error while calling setCurrentUsbFunctionsCb", by simp [setCurrentUsbFunctions, ht, hn],
        iff_of_false (by decide) fun h => h.2.1 hn⟩
  by_cases hv : validateAndSetVidPid gf env.setVidPid functions = .SUCCESS
  case neg =>
    obtain ⟨m, hm, hne⟩ := failed_snd functions callback (validateAndSetVidPid gf env.setVidPid functions) tid
    exact ⟨m, by simp [setCurrentUsbFunctions, ht, hn, hv, hm], by simp [hne, hv]⟩
  have hs := setupFunctions_status gf env functions callback timeoutMs tid
    (tearDownGadget .SUCCESS (storeRequest env functions g)).2
  by_cases hr : (setupFunctions gf env functions callback timeoutMs tid
      (tearDownGadget .SUCCESS (storeRequest env functions g)).2).1 = .SUCCESS
  · exact ⟨"Usb Gadget setcurrent functions called successfully", by simp [setCurrentUsbFunctions, ht, hn, hv, hr],
      iff_of_true rfl ⟨ht, hn, hv, hs.mp hr⟩⟩
  · obtain ⟨m, hm, hne⟩ := failed_snd functions callback (setupFunctions gf env functions callback
      timeoutMs tid (tearDownGadget .SUCCESS (storeRequest env functions g)).2).1 tid
    exact ⟨m, by simp [setCurrentUsbFunctions, ht, hn, hv, hr, hm], by simp [hne, ← hs, hr]⟩

end UsbGadget

end Rpi4Hal.Usb
