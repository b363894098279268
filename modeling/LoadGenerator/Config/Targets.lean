/-
From the target texts of a configuration to socket addresses.

* **`TargetError`** — why a list of targets gives no addresses;
* **`resolveTargets`** — one address for each target, in order, or the first failure. White space
  around a target does not count.
-/
import LoadGenerator.Address.SocketAddress
import LoadGenerator.Text.Blank

namespace LoadGenerator

/-- Why targets give no addresses. -/
inductive TargetError where
  /-- There are no targets. -/
  | noTargets
  /-- The trimmed text of a target is no socket address. -/
  | invalid (trimmed : String)
  deriving DecidableEq, Repr

namespace TargetError

/-- The text shown for the failure. -/
def message : TargetError → String
  | noTargets => "no targets configured"
  | invalid trimmed => s!"invalid target '{trimmed}': invalid socket address syntax"

end TargetError

/-- The address of one target. -/
def resolveTarget (target : String) : Except TargetError SocketAddress :=
  match SocketAddress.parse? (Text.trim target) with
  | some address => .ok address
  | none => .error (.invalid (Text.trim target))

/-- The addresses of targets, up to the first one that is invalid. -/
def resolveEach (targets : List String) : Except TargetError (List SocketAddress) :=
  targets.mapM resolveTarget

/-- The addresses of all targets, in order. -/
def resolveTargets (targets : List String) : Except TargetError (List SocketAddress) :=
  if targets.isEmpty then .error .noTargets else resolveEach targets

end LoadGenerator
