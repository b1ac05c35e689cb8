import RemoteOutputService.Basic

/-! The lock-protected state of `RemoteOutputServiceDirectory`: the two maps,
the change ID and the `outputPathState` objects with their ring links.

Objects live in a heap addressed by `Nat`, stored field by field. Address 0 is
the sentinel `d.outputPaths`, allocation hands out `fresh`. An output path's
root directory is named by the address of the `outputPathState` that owns it;
the directory trees themselves are not part of this state. -/
namespace RemoteOutputService

/-- `path.VirtualRootScopeWalkerFactory`, kept as the values it is built from:
the output path and the client's aliases. -/
structure ScopeWalkerFactory where
  outputPath : String
  aliases : List (String × String)
  deriving DecidableEq

/-- `buildState`. -/
structure BuildState where
  id : String
  digestFunction : DigestFunction
  scopeWalkerFactory : ScopeWalkerFactory
  deriving DecidableEq

/-- `RemoteOutputServiceDirectory`, with its `outputPathState` heap flattened
into one map per field. -/
structure RemoteOutputServiceDirectory where
  changeID : Nat
  outputBaseIDs : GoMap Component Nat
  buildIDs : GoMap String Nat
  buildState : Nat → Option BuildState
  previous : Nat → Nat
  next : Nat → Nat
  cookie : Nat → Nat
  outputBaseID : Nat → Component
  fresh : Nat

/-- The address of the sentinel `d.outputPaths`. -/
def outputPaths : Nat := 0

/-- `NewRemoteOutputServiceDirectory`: empty maps, and a sentinel linked to
itself. -/
def newRemoteOutputServiceDirectory : RemoteOutputServiceDirectory where
  changeID := 0
  outputBaseIDs := ∅
  buildIDs := ∅
  buildState := fun _ => none
  previous := fun _ => outputPaths
  next := fun _ => outputPaths
  cookie := fun _ => 0
  outputBaseID := fun _ => default
  fresh := outputPaths + 1

namespace RemoteOutputServiceDirectory

variable (d : RemoteOutputServiceDirectory)

/-- Whether `state` is registered under some output base ID. -/
def Registered (state : Nat) : Prop :=
  ∃ ob, d.outputBaseIDs.lookup ob = some state

/-- The build IDs that currently have a session. -/
def Active (buildId : String) : Prop :=
  buildId ∈ d.buildIDs

end RemoteOutputServiceDirectory

end RemoteOutputService
