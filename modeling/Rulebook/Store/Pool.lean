/-!
# Connection pools

How many connections to a database are kept. At least one is allowed, and never are more kept idle
than are allowed at all.
-/

namespace Rulebook

/-- The bounds of a pool of connections to a database. -/
structure PoolConfig where
  databaseUrl : String
  maxSize : Nat
  minIdle : Nat
  maxSize_pos : 0 < maxSize
  minIdle_le : minIdle ≤ maxSize

namespace PoolConfig

/-- The usual bounds: ten connections, two of them kept idle. -/
def new (databaseUrl : String) : PoolConfig :=
  ⟨databaseUrl, 10, 2, by decide, by decide⟩

/-- Another greatest number of connections, at least one; fewer are kept idle if need be. -/
def withMaxSize (p : PoolConfig) (maxSize : Nat) : PoolConfig :=
  ⟨p.databaseUrl, max maxSize 1, min p.minIdle (max maxSize 1), by omega, by omega⟩

end PoolConfig

/-- A failure of a pool. -/
inductive PoolError where
  | checkout (message : String)
  | build (message : String)
deriving DecidableEq, Repr

namespace PoolError

/-- The cause of a failure. -/
def cause : PoolError → String
  | .checkout message | .build message => message

/-- The text of a failure. -/
def message : PoolError → String
  | .checkout message => "failed to get connection from pool: " ++ message
  | .build message => "failed to build connection pool: " ++ message

end PoolError

end Rulebook
