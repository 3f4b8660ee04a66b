import Mathlib.Data.List.Basic

/-! The binder NDK status values that the Bluetooth HCI HAL and the USB gadget HAL
return to their callers (`ndk::ScopedAStatus`). Only the codes the two HALs build
are listed. -/

namespace Rpi4Hal

/-- Binder exception codes (`EX_*`). -/
inductive ExceptionCode where
  | EX_ILLEGAL_ARGUMENT
  | EX_ILLEGAL_STATE
  | EX_NULL_POINTER
  deriving DecidableEq, Repr

/-- Binder transport codes (`STATUS_*`) passed as service-specific errors. -/
inductive BinderStatus where
  | STATUS_BAD_VALUE
  | STATUS_FAILED_TRANSACTION
  deriving DecidableEq, Repr

/-- `ndk::ScopedAStatus`, by the factory the HALs build it with. -/
inductive ScopedAStatus where
  | ok
  | fromExceptionCode (code : ExceptionCode)
  | fromServiceSpecificError (code : BinderStatus)
  | fromServiceSpecificErrorWithMessage (code : Int) (message : String)
  deriving DecidableEq, Repr

end Rpi4Hal
