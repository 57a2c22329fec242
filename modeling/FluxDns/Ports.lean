/-!
# Errors of the ports

The error classes that every adapter maps its failures to.
-/

namespace FluxDns

/-- Why an operation was cancelled. -/
inductive CancelReason where
  | clientDisconnected
  | deadlineExceeded
  | shutdown
  | groupPolicy
  | upstreamCancelled
  deriving DecidableEq

inductive PortErrorClass where
  | invalidInput
  | timeout
  | cancelled (reason : CancelReason)
  | unavailable
  | permissionDenied
  | resourceExhausted
  | protocolViolation
  | corruptData
  | internal
  deriving DecidableEq

/-- An error without the adapter's own text. -/
structure PortError where
  errorClass : PortErrorClass
  operation : String
  safeContext : Option String
  deriving DecidableEq

def PortError.new (errorClass : PortErrorClass) (operation : String) : PortError :=
  ⟨errorClass, operation, none⟩

def PortError.withSafeContext (error : PortError) (context : String) : PortError :=
  { error with safeContext := some context }

end FluxDns
