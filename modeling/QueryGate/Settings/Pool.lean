/-!
# Pool limits

How many connections a pool holds and for how long. A zero stands for the
default.
-/

namespace QueryGate

structure PoolLimits where
  maxOpen : Nat
  maxIdle : Nat
  lifetime : Nat
  idleTime : Nat
  pingTimeout : Nat
  deriving Repr, DecidableEq

/-- The limits a pool is made with; times are in seconds. -/
structure PoolOptions where
  maxConnections : Nat
  minConnections : Nat
  lifetime : Nat
  idleTime : Nat
  acquireTimeout : Nat
  deriving Repr, DecidableEq

/-- The number `n`, or the default in the place of zero. -/
def nonzeroOr (n fallback : Nat) : Nat := if n = 0 then fallback else n

namespace PoolLimits

/-- The connections kept open while idle are never more than may be open. -/
def options (l : PoolLimits) : PoolOptions :=
  let maxConnections := nonzeroOr l.maxOpen 10
  { maxConnections
    minConnections := min l.maxIdle maxConnections
    lifetime := nonzeroOr l.lifetime 1800
    idleTime := nonzeroOr l.idleTime 600
    acquireTimeout := nonzeroOr l.pingTimeout 5 }

end PoolLimits

end QueryGate
