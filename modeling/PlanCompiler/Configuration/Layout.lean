/-
# Configuration.Layout -- what the text of a configuration looks like

The layout says member by member what `Configuration.ofJson?` reads.  It serves to
tell on which line a file that is not JSON first goes wrong.
-/
import PlanCompiler.Configuration.Basic
import PlanCompiler.Json.Layout

namespace PlanCompiler

set_option autoImplicit false

open Json (Layout)

/-- A member that must be given. -/
def Json.Layout.required (name : String) (layout : Layout) : String × Bool × Layout :=
  (name, true, layout)

/-- A member that may be left out. -/
def Json.Layout.optional (name : String) (layout : Layout) : String × Bool × Layout :=
  (name, false, layout)

open Json.Layout (required optional)

def PoolSettings.layout : Layout :=
  .record [
    optional "maxConnections" (.count (Nat.pow 2 32)),
    optional "poolTimeout" (.count (Nat.pow 2 64)),
    optional "idleTimeout" (.nullable (.count (Nat.pow 2 64))),
    optional "connectionLifetime" (.nullable (.count (Nat.pow 2 64)))]

def FieldInfo.layout : Layout :=
  .record [
    required "type" (.keyword (ScalarType.all.map ScalarType.name)),
    optional "nullable" .flag,
    optional "description" (.nullable .text)]

def Command.layout : Layout :=
  .record [
    required "region" (.keyword (Region.spellings.map (·.1))),
    required "sql" .text]

def NativeQuery.layout : Layout :=
  .record [
    required "sql" (.whole fun json => (NativeQuery.sourceOfJson? json).isSome),
    optional "fields" (.dictionary FieldInfo.layout),
    optional "columnMappings" (.dictionary (.labelled ["column", "raw"])),
    optional "ensureAllColumnsMapped" .flag,
    optional "additionalCommands" (.list Command.layout),
    optional "description" (.nullable .text)]

namespace Configuration

def layout : Layout :=
  .record [
    required "version" (.count (Nat.pow 2 32)),
    required "connectionUri" (.whole fun json => (Secret.ofJson? json).isSome),
    optional "poolSettings" PoolSettings.layout,
    optional "metadata" (.record [
      optional "nativeQueries" (.dictionary NativeQuery.layout)])]

end Configuration

end PlanCompiler
