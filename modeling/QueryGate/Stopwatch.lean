import QueryGate.Value.Basic

/-!
# Stopwatches

A stopwatch shows nothing while it runs, and whole elapsed milliseconds once it has stopped, however
the timed work ended.
-/

set_option autoImplicit false

namespace QueryGate

inductive Stopwatch where
  | running (start : Nat)
  | stopped (elapsed : Nat)
deriving DecidableEq, Repr

namespace Stopwatch

def stop (now : Nat) : Stopwatch → Stopwatch
  | .running start => .stopped (now - start)
  | w => w

def readings : Stopwatch → List (String × Value)
  | .running _ => []
  | .stopped elapsed => [("elapsed_ms", .int (elapsed / 1000))]

end Stopwatch

end QueryGate
