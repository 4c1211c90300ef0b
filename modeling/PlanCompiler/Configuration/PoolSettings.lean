/-
# Configuration.PoolSettings -- how many connections are kept, and for how long

All times are in seconds.  A setting that is not written has its default; the two
limits on the age of a connection can also be written as null, for no limit.
-/
import PlanCompiler.Json.Record

namespace PlanCompiler

set_option autoImplicit false

structure PoolSettings where
  maxConnections : UInt32
  /-- How long to wait for a connection. -/
  poolTimeout : UInt64
  /-- How long a connection may be unused. -/
  idleTimeout : Option UInt64
  /-- How long a connection may be used at all. -/
  connectionLifetime : Option UInt64
deriving DecidableEq, Repr

namespace PoolSettings

def default : PoolSettings where
  maxConnections := 50
  poolTimeout := 30
  idleTimeout := some 180
  connectionLifetime := some 600

def isDefault (settings : PoolSettings) : Bool :=
  settings == default

def seconds (value : UInt64) : Json :=
  .integer value.toNat

def toJson (settings : PoolSettings) : Json :=
  .object [
    ("maxConnections", .integer settings.maxConnections.toNat),
    ("poolTimeout", seconds settings.poolTimeout),
    ("idleTimeout", Json.ofOption seconds settings.idleTimeout),
    ("connectionLifetime", Json.ofOption seconds settings.connectionLifetime)]

def ofJson? (json : Json) : Option PoolSettings := do
  let record ←
    json.record? ["maxConnections", "poolTimeout", "idleTimeout", "connectionLifetime"]
  some {
    maxConnections := ← record.defaulted "maxConnections" default.maxConnections Json.uint32?
    poolTimeout := ← record.defaulted "poolTimeout" default.poolTimeout Json.uint64?
    idleTimeout := ← record.defaulted "idleTimeout" default.idleTimeout
      (Json.nullable? Json.uint64?)
    connectionLifetime := ← record.defaulted "connectionLifetime" default.connectionLifetime
      (Json.nullable? Json.uint64?) }

end PoolSettings

end PlanCompiler
