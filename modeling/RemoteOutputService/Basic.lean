import Mathlib.Data.List.AList

/-! Values that the Remote Output Service directory reads from its collaborators:
pathname components, gRPC statuses and their wrapping, and digests. Only the
parts that `remote_output_service_directory.go` inspects are kept. -/
namespace RemoteOutputService

/-- A Go map with keys `K`, as an association list without duplicate keys. -/
abbrev GoMap (K V : Type) := AList fun _ : K => V

/-- `path.NewComponent` accepts a name that is not empty, not `.` or `..`, and
has no slash. -/
def isValidComponent (name : String) : Bool :=
  name.data != [] && name.data != ['.'] && name.data != ['.', '.'] && !name.data.contains '/'

/-- `path.Component`: a single pathname component. An invalid name cannot be
stored in one. -/
structure Component where
  name : String
  valid : isValidComponent name = true
  deriving DecidableEq

/-- `path.NewComponent`. -/
def newComponent (name : String) : Option Component :=
  if h : isValidComponent name = true then some ⟨name, h⟩ else none

/-- The name stored in the zero value of `outputPathState` (the ring's
sentinel). It is never read. -/
instance : Inhabited Component := ⟨⟨"_", rfl⟩⟩

/-- The gRPC codes that this code returns or inspects. -/
inductive Code
  | unknown
  | invalidArgument
  | notFound
  | failedPrecondition
  | internal
  deriving DecidableEq, Repr

/-- A non-OK gRPC status. -/
structure Status where
  code : Code
  message : String
  deriving DecidableEq

/-- `util.StatusWrap`: the code is kept, the message gets a prefix. -/
def Status.wrap (s : Status) (message : String) : Status :=
  { s with message := message ++ ": " ++ s.message }

@[simp] theorem Status.wrap_code (s : Status) (message : String) :
    (s.wrap message).code = s.code := rfl

/-- Go's `%#v` rendering of a string (escapes are not modelled). -/
def goQuote (s : String) : String := "\"" ++ s ++ "\""

/-- `digest.Function`: an instance name together with a hash function, the
latter as its REv2 `DigestFunction.Value` number. -/
structure DigestFunction where
  instanceName : String
  hashFunction : Nat
  deriving DecidableEq

/-- `digest.Digest`: a blob's hash and size, bound to the digest function (and
so the instance name) it was created under. -/
structure Digest where
  digestFunction : DigestFunction
  hash : String
  sizeBytes : Int
  deriving DecidableEq

/-- `Digest.UsesDigestFunction`. -/
def Digest.usesDigestFunction (d : Digest) (f : DigestFunction) : Bool :=
  d.digestFunction == f

/-- `Digest.String()`, in the `function-hash-size-instance` layout. -/
def Digest.string (d : Digest) : String :=
  toString d.digestFunction.hashFunction ++ "-" ++ d.hash ++ "-" ++
    toString d.sizeBytes ++ "-" ++ d.digestFunction.instanceName

/-- `digest.Set`: its items never repeat a digest. -/
structure DigestSet where
  items : List Digest
  nodup : items.Nodup

/-- The REv2 `Digest` message of a request. -/
structure DigestProto where
  hash : String
  sizeBytes : Int
  deriving DecidableEq

/-- `Function.NewDigestFromProto`. Of bb-storage's checks only the size check is
modelled; the hash's format is taken as given. -/
def DigestFunction.newDigestFromProto (f : DigestFunction) (d : DigestProto) :
    Except Status Digest :=
  if d.sizeBytes < 0 then
    .error ⟨.invalidArgument, "Invalid digest size: " ++ toString d.sizeBytes ++ " bytes"⟩
  else
    .ok ⟨f, d.hash, d.sizeBytes⟩

end RemoteOutputService
