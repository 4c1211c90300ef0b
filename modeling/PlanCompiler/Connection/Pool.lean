/-
# Connection.Pool -- the pool of connections a configuration asks for

The connection string is read before there is a pool, and no connection is made
until one is needed.  A string is refused when it is no address, when the user or
the password in it is not text, and when one of the options it sets has a value of
no meaning.  The database is left to the server, and options that are not known
are ignored.
-/
import PlanCompiler.Configuration.Basic
import PlanCompiler.Connection.Address

namespace PlanCompiler

set_option autoImplicit false

structure Pool where
  maxConnections : UInt32
  acquireTimeout : UInt64
  idleTimeout : Option UInt64
  maxLifetime : Option UInt64
deriving DecidableEq, Repr

namespace Pool

/-! ## Options in the connection string -/

def encryptionModes : List String :=
  ["disabled", "preferred", "required", "verify_ca", "verify_identity"]

def isEncryptionMode (value : String) : Bool :=
  encryptionModes.contains (.ofList (value.toList.map Char.toLower))

/-- A number of 64 bits, which may have a plus sign. -/
def isCapacity (value : String) : Bool :=
  let digits :=
    match value.toList with
    | '+' :: digits => digits
    | digits => digits
  !digits.isEmpty && (Host.number? 10 digits).any (· < Nat.pow 2 64)

/-- The options whose values are checked. -/
def checks : List (String × (String → Bool)) := [
  ("sslmode", isEncryptionMode), ("ssl-mode", isEncryptionMode),
  ("statement-cache-capacity", isCapacity)]

def optionFits : Option String × Option String → Bool
  | (none, _) => true
  | (some name, value) =>
    match checks.lookup name with
    | none => true
    | some check => value.any check

/-- Whether a string says how to connect. -/
def isConnectionString (text : String) : Bool :=
  match Address.ofText? text with
  | none => false
  | some address =>
    [address.user, address.password].all (fun part => (Escape.decode? part).isSome)
      && (Escape.pairs address.query).all optionFits

/-- The pool of a configuration, if its connection string can be read. -/
def ofConfiguration? (configuration : ResolvedConfiguration) : Option Pool :=
  if isConnectionString configuration.connectionUri then
    some {
      maxConnections := configuration.pool.maxConnections
      acquireTimeout := configuration.pool.poolTimeout
      idleTimeout := configuration.pool.idleTimeout
      maxLifetime := configuration.pool.connectionLifetime }
  else none

end Pool

end PlanCompiler
