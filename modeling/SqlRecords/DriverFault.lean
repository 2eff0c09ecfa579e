import SqlRecords.Failure

/-! Errors of database drivers, sorted into failures. -/
namespace SqlRecords

inductive DriverFault where
  | acquireTimeout | poolClosed | io | tls | routing | configuration
  | engine | rowNotFound | workerCrashed | protocol
  | decode | columnNotFound | conversion | encoding
  deriving DecidableEq, Repr

/-- Whether the fault is about reaching the engine. -/
def DriverFault.isConnection : DriverFault → Bool
  | .acquireTimeout | .poolClosed | .io | .tls | .routing => true
  | _ => false

/-- The failure for a fault that a driver described in words. A statement is named later. -/
def DriverFault.failure (fault : DriverFault) (text : String) : Failure :=
  if fault.isConnection then .connection text
  else if fault = .configuration then .configuration text
  else .statement text ""

end SqlRecords
