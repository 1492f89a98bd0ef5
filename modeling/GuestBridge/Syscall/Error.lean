import GuestBridge.Container.Error
import GuestBridge.Resource.Kind
import GuestBridge.Syscall.Id
import GuestBridge.Text.Quoted

/-!
# What can go wrong with a syscall

A call either returns an error, or its routine looks for an argument word that was not passed. The
second ends the program that made the call.
-/

namespace GuestBridge

/-- Why a table of routines refuses a binding, a name or a call. -/
inductive RegistryError where
  /-- A second routine for an identifier. -/
  | duplicateBinding (id : SyscallId) (first second : String)
  /-- No routine for an identifier. -/
  | unbound (id : SyscallId)
  | unknownName (name : String)
  /-- The wrong number of argument words. -/
  | arity (id : SyscallId) (expected got : Nat)
deriving DecidableEq, Repr

namespace RegistryError

def message : RegistryError → String
  | .duplicateBinding id first second =>
    s!"syscall {id.name} bound twice (by {first} and {second})"
  | .unbound id => s!"syscall {id.name} has no implementation"
  | .unknownName name => "unknown syscall name " ++ Text.quoted name
  | .arity id expected got => s!"syscall {id.name} takes {expected} argument words, got {got}"

/-- The error with its fields by name, as log lines show it. -/
def fields : RegistryError → String
  | .duplicateBinding id first second =>
    "DuplicateBinding \x7b id: " ++ id.caption ++ ", first: " ++ Text.quoted first ++ ", second: "
      ++ Text.quoted second ++ " \x7d"
  | .unbound id => "Unbound \x7b id: " ++ id.caption ++ " \x7d"
  | .unknownName name => "UnknownName(" ++ Text.quoted name ++ ")"
  | .arity id expected got =>
    "Arity \x7b id: " ++ id.caption ++ ", expected: " ++ toString expected ++ ", got: "
      ++ toString got ++ " \x7d"

end RegistryError

/-- Why a syscall failed. -/
inductive SyscallError where
  | registry (cause : RegistryError)
  | memory (cause : MemoryError)
  | container (cause : ContainerError)
  /-- No resource of a kind at a handle. -/
  | notFound (kind : ResourceKind) (handle : Int32)
  /-- The guest gave up. -/
  | guestPanic (code : Int32) (message : String)
deriving DecidableEq, Repr

namespace SyscallError

def message : SyscallError → String
  | .registry cause => cause.message
  | .memory cause => cause.message
  | .container cause => cause.message
  | .notFound kind handle => s!"no {kind.name} resource at handle {handle}"
  | .guestPanic code message => s!"guest panic {code}: {message}"

/-- The error with its fields by name, as log lines show it. -/
def fields : SyscallError → String
  | .registry cause => "Registry(" ++ cause.fields ++ ")"
  | .memory cause => "Memory(" ++ cause.fields ++ ")"
  | .container cause => "Format(" ++ cause.fields ++ ")"
  | .notFound kind handle =>
    "ResourceNotFound \x7b ty: " ++ kind.caption ++ ", handle: " ++ toString handle ++ " \x7d"
  | .guestPanic code message =>
    "GuestPanic \x7b code: " ++ toString code ++ ", message: " ++ Text.quoted message ++ " \x7d"

/-- Whether the guest cannot go on after it. -/
def isFatal : SyscallError → Bool
  | .registry _ | .guestPanic .. => true
  | .memory _ | .container _ | .notFound .. => false

end SyscallError

/-- Why a call gives no result. -/
inductive CallFailure where
  | returned (cause : SyscallError)
  /-- The routine looked for a word that was not passed. -/
  | noWord (index : Nat)
deriving DecidableEq, Repr

end GuestBridge
