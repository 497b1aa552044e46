import Provisioning.Failure

/-!
# Logging

One log sink serves the whole process.  It is installed once; a second installation is refused.
-/

namespace Provisioning

/-- Whether the process has its log sink. -/
inductive LogSink where
  | absent
  | installed
  deriving DecidableEq, Repr

namespace LogSink

def install : LogSink → Except Failure LogSink
  | .absent => .ok .installed
  | .installed =>
      .error (.internal "telemetry" "a global default trace dispatcher has already been set")

end LogSink

end Provisioning
