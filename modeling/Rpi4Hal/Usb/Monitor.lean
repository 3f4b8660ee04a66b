import Rpi4Hal.Usb.Gadget

/-! The gadget HAL over whole runs: requests, queries, resets, and the notifications of
the FFS monitor, which calls `currentFunctionsAppliedCallback` from its own thread while
it runs. `mLockSetCurrentFunction` serializes the requests; a notification lands between
two of them, or inside a request between its reset of `mCurrentUsbFunctionsApplied` and
`tearDownGadget` (`Configfs.staleApplied`). Proved: over any run every call made with a
callback is answered once, in order, by its own callback method on its transaction id;
`getCurrentUsbFunctions` reports the functions of the last request, failed or not; and
while every teardown succeeds a notification marks only the current functions. Shown on
runs: after a failed teardown, or in a request's window, an earlier monitor marks a later
request applied. -/

namespace Rpi4Hal.Usb

/-- What can happen to the HAL next. -/
inductive Op where
  | setCurrentUsbFunctions (env : Configfs) (functions : UInt64) (callback : Bool) (timeoutMs tid : Int)
  | getCurrentUsbFunctions (callback : Bool) (tid : Int)
  | getUsbSpeed (read : Option String) (callback : Bool) (tid : Int)
  | reset (pullDown pullUp callback : Bool) (tid : Int)
  | functionsApplied (b : Bool)

/-- The request's teardown succeeds. -/
def Op.TearsDown : Op → Prop
  | .setCurrentUsbFunctions env .. => env.resetGadget = .SUCCESS
  | _ => True

/-- The answer a step owes: the functions and transaction id of a request made with a
callback. -/
def Op.request : Op → List (UInt64 × Int)
  | .setCurrentUsbFunctions _ functions true _ tid => [(functions, tid)]
  | _ => []

/-- The methods of `IUsbGadgetCallback`. -/
inductive CallbackMethod where
  | setCurrentUsbFunctionsCb
  | getCurrentUsbFunctionsCb
  | getUsbSpeedCb
  | resetCb
  deriving DecidableEq, Repr

/-- The callback method a call made with a callback waits on, and its transaction. -/
def Op.awaits : Op → List (CallbackMethod × Int)
  | .setCurrentUsbFunctions _ _ true _ tid => [(.setCurrentUsbFunctionsCb, tid)]
  | .getCurrentUsbFunctions true tid => [(.getCurrentUsbFunctionsCb, tid)]
  | .getUsbSpeed _ true tid => [(.getUsbSpeedCb, tid)]
  | .reset _ _ true tid => [(.resetCb, tid)]
  | _ => []

/-- The functions a request names, whether it succeeds or not. -/
def Op.requested : Op → Option UInt64
  | .setCurrentUsbFunctions _ functions .. => some functions
  | _ => none

/-- The request a callback answers, if it is a `setCurrentUsbFunctionsCb`. -/
def Callback.answers : Callback → List (UInt64 × Int)
  | .setCurrentUsbFunctionsCb functions _ tid => [(functions, tid)]
  | _ => []

/-- The method a callback calls. -/
def Callback.method : Callback → CallbackMethod
  | .setCurrentUsbFunctionsCb .. => .setCurrentUsbFunctionsCb
  | .getCurrentUsbFunctionsCb .. => .getCurrentUsbFunctionsCb
  | .getUsbSpeedCb .. => .getUsbSpeedCb
  | .resetCb .. => .resetCb

/-- The transaction a callback answers. -/
def Callback.tid : Callback → Int
  | .setCurrentUsbFunctionsCb _ _ tid => tid
  | .getCurrentUsbFunctionsCb _ _ tid => tid
  | .getUsbSpeedCb _ tid => tid
  | .resetCb _ tid => tid

namespace UsbGadget

/-- One operation: the gadget after it, and the callbacks made. -/
def step (gf : GadgetFunction) (g : UsbGadget) : Op → UsbGadget × List Callback
  | .setCurrentUsbFunctions env functions callback timeoutMs tid =>
    let r := setCurrentUsbFunctions gf env functions callback timeoutMs tid g
    (r.1, r.2.1)
  | .getCurrentUsbFunctions callback tid => (g, (getCurrentUsbFunctions callback tid g).1)
  | .getUsbSpeed read callback tid =>
    let r := getUsbSpeed read callback tid g
    (r.1, r.2.1)
  | .reset pullDown pullUp callback tid => (g, (reset pullDown pullUp callback tid).1)
  | .functionsApplied b => (functionsApplied b g, [])

/-- A run: the gadget at its end, and every callback made, in order. -/
def run (gf : GadgetFunction) (g : UsbGadget) : List Op → UsbGadget × List Callback
  | [] => (g, [])
  | op :: ops =>
    let r := step gf g op
    let r' := run gf r.1 ops
    (r'.1, r.2 ++ r'.2)

/-! ### Every request is answered -/

theorem step_answers (gf : GadgetFunction) (g : UsbGadget) (op : Op) :
    (step gf g op).2.flatMap Callback.answers = op.request := by
  cases op with
  | setCurrentUsbFunctions env functions callback timeoutMs tid =>
    obtain ⟨status, h, -⟩ := setCurrentUsbFunctions_answers gf env functions callback timeoutMs tid g
    cases callback <;> simp [step, h, answer, Op.request, Callback.answers]
  | getCurrentUsbFunctions callback tid =>
    cases callback <;> simp [step, getCurrentUsbFunctions, Op.request, Callback.answers]
  | getUsbSpeed read callback tid =>
    cases callback <;> simp [step, getUsbSpeed, Op.request, Callback.answers]
  | reset pullDown pullUp callback tid =>
    cases callback <;> simp only [step, reset] <;> split_ifs <;> rfl
  | functionsApplied b => rfl

/-- Over any run, the `setCurrentUsbFunctionsCb` calls answer the requests made with a
callback, one each and in order, with the requested functions and transaction id. -/
theorem run_answers_requests (gf : GadgetFunction) (g : UsbGadget) (ops : List Op) :
    (run gf g ops).2.flatMap Callback.answers = ops.flatMap Op.request := by
  induction ops generalizing g with
  | nil => rfl
  | cons op ops ih => simp [run, List.flatMap_append, step_answers, ih]

theorem step_calls (gf : GadgetFunction) (g : UsbGadget) (op : Op) :
    (step gf g op).2.map (fun cb => (cb.method, cb.tid)) = op.awaits := by
  cases op with
  | setCurrentUsbFunctions env functions callback timeoutMs tid =>
    obtain ⟨status, h, -⟩ := setCurrentUsbFunctions_answers gf env functions callback timeoutMs tid g
    cases callback <;> simp [step, h, answer, Op.awaits, Callback.method, Callback.tid]
  | getCurrentUsbFunctions callback tid => cases callback <;> rfl
  | getUsbSpeed read callback tid => cases callback <;> rfl
  | reset pullDown pullUp callback tid => cases pullDown <;> cases pullUp <;> cases callback <;> rfl
  | functionsApplied b => rfl

/-- Over any run, every call made with a callback is answered exactly once, in the order
of the calls, by the callback method of the call on its own transaction id, and nothing
else is answered. -/
theorem run_answers_every_call (gf : GadgetFunction) (g : UsbGadget) (ops : List Op) :
    (run gf g ops).2.map (fun cb => (cb.method, cb.tid)) = ops.flatMap Op.awaits := by
  induction ops generalizing g with
  | nil => rfl
  | cons op ops ih => simp only [run, List.map_append, step_calls, ih, List.flatMap_cons]

/-! ### The functions reported -/

theorem step_mCurrentUsbFunctions (gf : GadgetFunction) (g : UsbGadget) (op : Op) :
    (step gf g op).1.mCurrentUsbFunctions = op.requested.getD g.mCurrentUsbFunctions := by
  cases op with
  | setCurrentUsbFunctions env functions callback timeoutMs tid =>
    exact (setCurrentUsbFunctions_effect gf env functions callback timeoutMs tid g).stored
  | functionsApplied b => simp [step, Op.requested]
  | _ => rfl

theorem run_mCurrentUsbFunctions (gf : GadgetFunction) (g : UsbGadget) (ops : List Op) :
    (run gf g ops).1.mCurrentUsbFunctions = (ops.filterMap Op.requested).getLastD g.mCurrentUsbFunctions := by
  induction ops generalizing g with
  | nil => rfl
  | cons op ops ih =>
    simp only [run, ih, step_mCurrentUsbFunctions, List.filterMap_cons]
    cases op.requested with
    | none => rfl
    | some functions => exact (List.getLastD_cons _ _ _).symm

/-- After any run, `getCurrentUsbFunctions` reports the functions of the last request,
whether it succeeded or failed, or those the gadget started with if there was none. -/
theorem reports_last_request (gf : GadgetFunction) (g : UsbGadget) (ops : List Op) (tid : Int) :
    ∃ status, (step gf (run gf g ops).1 (.getCurrentUsbFunctions true tid)).2 =
      [.getCurrentUsbFunctionsCb ((ops.filterMap Op.requested).getLastD g.mCurrentUsbFunctions) status tid] :=
  ⟨_, by rw [← run_mCurrentUsbFunctions]; rfl⟩

/-! ### A monitor of the current functions -/

/-- A running monitor is the one started for the current functions. -/
def MonitorCurrent (g : UsbGadget) : Prop :=
  g.monitorRunning = true → g.monitorFor = g.mCurrentUsbFunctions

theorem MonitorCurrent.step {gf : GadgetFunction} {g : UsbGadget} {op : Op}
    (h : g.MonitorCurrent) (ht : op.TearsDown) : (step gf g op).1.MonitorCurrent := by
  cases op with
  | setCurrentUsbFunctions env functions callback timeoutMs tid =>
    have e := setCurrentUsbFunctions_effect gf env functions callback timeoutMs tid g
    intro hm
    rcases e.monitor hm with ⟨-, hf⟩ | ⟨hr, -⟩
    · exact hf.trans e.stored.symm
    · exact absurd ht hr
  | getCurrentUsbFunctions => exact h
  | getUsbSpeed => exact h
  | reset => exact h
  | functionsApplied b => simpa [MonitorCurrent, UsbGadget.step] using h

theorem MonitorCurrent.run {gf : GadgetFunction} {g : UsbGadget} {ops : List Op}
    (h : g.MonitorCurrent) (ht : ∀ op ∈ ops, op.TearsDown) : (run gf g ops).1.MonitorCurrent := by
  induction ops generalizing g with
  | nil => exact h
  | cons op ops ih =>
    exact ih (h.step (ht op (List.mem_cons_self _ _))) fun o ho => ht o (List.mem_cons_of_mem _ ho)

/-- Started with no monitor running (the monitor is built stopped), a run in which every
teardown succeeds ends with a running monitor only for the current functions: a
notification then changes the flag only for them. -/
theorem notification_marks_current (gf : GadgetFunction) (g : UsbGadget) (ops : List Op)
    (hg : g.monitorRunning = false) (ht : ∀ op ∈ ops, op.TearsDown) (b : Bool) :
    let g' := (run gf g ops).1
    (functionsApplied b g').mCurrentUsbFunctionsApplied ≠ g'.mCurrentUsbFunctionsApplied →
      g'.monitorRunning = true ∧ g'.monitorFor = g'.mCurrentUsbFunctions := by
  intro g' hb
  have hm : g'.monitorRunning = true := by
    by_contra hm
    simp [hm] at hb
  exact ⟨hm, MonitorCurrent.run (fun h => absurd h (by simp [hg])) ht hm⟩

theorem notification_marks_current_after_adb :
    (⟨0, false, .UNKNOWN, false, 0⟩ : UsbGadget).monitorRunning = false ∧
    (∀ op ∈ [Op.setCurrentUsbFunctions .succeeding GadgetFunction.aidl.ADB true 0 1], op.TearsDown) ∧
    let g' := (run .aidl ⟨0, false, .UNKNOWN, false, 0⟩
      [.setCurrentUsbFunctions .succeeding GadgetFunction.aidl.ADB true 0 1]).1
    ((functionsApplied true g').mCurrentUsbFunctionsApplied ≠ g'.mCurrentUsbFunctionsApplied →
      g'.monitorRunning = true ∧ g'.monitorFor = g'.mCurrentUsbFunctions) :=
  ⟨rfl, by simp [Op.TearsDown, Configfs.succeeding],
    notification_marks_current .aidl _ _ rfl (by simp [Op.TearsDown, Configfs.succeeding]) true⟩

/-! ### An earlier monitor marks a later request -/

/-- From any gadget: a request for `ADB` starts the monitor; a request for `MTP` whose
`resetGadget` fails reports `ERROR` and leaves that monitor running, and its
notification makes `getCurrentUsbFunctions` report `MTP` applied. Likewise a
notification landing in the window of a request for `MTP` that `setVidPid` then fails,
with no monitor left running. -/
theorem stale_monitor_marks_request_applied (g : UsbGadget) :
    (run .aidl g [.setCurrentUsbFunctions .succeeding GadgetFunction.aidl.ADB true 0 1,
      .setCurrentUsbFunctions { Configfs.succeeding with resetGadget := .ERROR }
        GadgetFunction.aidl.MTP true 0 2,
      .functionsApplied true, .getCurrentUsbFunctions true 3]) =
      ({ mCurrentUsbFunctions := GadgetFunction.aidl.MTP, mCurrentUsbFunctionsApplied := true,
         mUsbSpeed := g.mUsbSpeed, monitorRunning := true, monitorFor := GadgetFunction.aidl.ADB },
       [.setCurrentUsbFunctionsCb GadgetFunction.aidl.ADB .SUCCESS 1,
        .setCurrentUsbFunctionsCb GadgetFunction.aidl.MTP .ERROR 2,
        .getCurrentUsbFunctionsCb GadgetFunction.aidl.MTP .FUNCTIONS_APPLIED 3]) ∧
    (run .aidl g [.setCurrentUsbFunctions .succeeding GadgetFunction.aidl.ADB true 0 1,
      .setCurrentUsbFunctions
        { Configfs.succeeding with setVidPid := fun _ _ => .ERROR, staleApplied := some true }
        GadgetFunction.aidl.MTP true 0 2,
      .getCurrentUsbFunctions true 3]) =
      ({ mCurrentUsbFunctions := GadgetFunction.aidl.MTP, mCurrentUsbFunctionsApplied := true,
         mUsbSpeed := g.mUsbSpeed, monitorRunning := false, monitorFor := GadgetFunction.aidl.ADB },
       [.setCurrentUsbFunctionsCb GadgetFunction.aidl.ADB .SUCCESS 1,
        .setCurrentUsbFunctionsCb GadgetFunction.aidl.MTP .ERROR 2,
        .getCurrentUsbFunctionsCb GadgetFunction.aidl.MTP .FUNCTIONS_APPLIED 3]) := by
  cases g with
  | mk functions applied speed running monitorFor => cases running <;> exact ⟨rfl, rfl⟩

end UsbGadget

end Rpi4Hal.Usb
