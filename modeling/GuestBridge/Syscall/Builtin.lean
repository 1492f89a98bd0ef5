import GuestBridge.Syscall.Arithmetic
import GuestBridge.Syscall.Services

/-!
# The groups that come with the bridge
-/

namespace GuestBridge

namespace SyscallGroup

/-- The built-in groups, in the order in which they are registered. -/
def builtin : List SyscallGroup :=
  [Arithmetic.doubleGroup, Arithmetic.singleGroup, Arithmetic.elementaryGroup, Services.eventGroup,
    Services.resourceGroup, Services.systemGroup]

/-- The built-in group with a name. -/
def builtin? (name : String) : Option SyscallGroup := builtin.find? fun g => g.name = name

end SyscallGroup

end GuestBridge
