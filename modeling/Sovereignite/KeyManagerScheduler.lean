import Sovereignite.KeyManagerOperations

/-!
# The rotation scheduler

A scheduler reads the clock, asks the manager which roles are due at that time,
and has each of them rotated if it still is.  Each question and each rotation
is an exclusive operation of its own, so other processes may run in between.
-/

namespace Sovereignite.KeyManager

open Effect Program
open Trust (Context)

structure RotationResult where
  role : Role
  generation : UInt64
  handle : Handle
  activated : Time
  deriving DecidableEq

structure RotationReport where
  results : List RotationResult := []
  errors : List Error := []

def RotationReport.withError (report : RotationReport) (error : Error) : RotationReport :=
  { report with errors := report.errors ++ [error] }

def RotationReport.withResult (report : RotationReport) (role : Role)
    (metadata : KeyMetadata) : RotationReport :=
  { report with
    results := report.results ++
      [⟨role, metadata.generation, metadata.handle, metadata.createdAt⟩] }

section Scheduling

variable (env : Platform) (manager : Manager) (ctx : Context)

/-- Have the due roles rotated one after the other.  A context that is done ends
the loop; a failed rotation does not. -/
def rotateDueRoles (now : Time) : RotationReport → List Role → Managing RotationReport
  | report, [] => .ret report
  | report, role :: rest =>
    .call (.contextError ctx) fun
      | some error => .ret (report.withError error)
      | none => do
        let outcome ← (rotateIfDue env manager ctx role now).attempt
        match outcome with
        | .error error =>
          rotateDueRoles now (report.withError (.wrap s!"rotate due role {quoted role}" error)) rest
        | .ok none => rotateDueRoles now report rest
        | .ok (some metadata) => rotateDueRoles now (report.withResult role metadata) rest

def runOnce : Managing RotationReport := do
  checkContext ctx
  let now ← ask .now
  let roles ← dueRoles env manager ctx now
  rotateDueRoles env manager ctx now {} roles

end Scheduling

end Sovereignite.KeyManager
