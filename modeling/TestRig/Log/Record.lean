/-!
Log records: a severity and a message. A logger keeps a record when its severity ranks at
least the logger's own level; the other attributes a record may carry are not kept.
-/

namespace TestRig.Log

/-- The severities of a record, from the most verbose. -/
inductive Level where
  | debug
  | info
  | warn
  | error
  deriving DecidableEq, Repr, Inhabited

/-- The rank of a level: a record is kept when its level ranks at least the logger's. -/
def Level.rank : Level → Nat
  | .debug => 0
  | .info => 1
  | .warn => 2
  | .error => 3

def Level.name : Level → String
  | .debug => "DEBUG"
  | .info => "INFO"
  | .warn => "WARN"
  | .error => "ERROR"

structure Record where
  level : Level
  message : String
  deriving Repr, Inhabited

/-- The records a logger at a level keeps, in order. -/
def kept (threshold : Level) (records : List Record) : List Record :=
  records.filter fun r => r.level.rank ≥ threshold.rank

end TestRig.Log
