/-
Refusals by the host.

Whatever a program asks of the host it runs on may be refused, with a number that says
why and a text that goes with the number.
-/

namespace Lifecast

/-- A refusal by the host. -/
structure OsError where
  /-- Its number. -/
  code : Nat
  /-- The class it belongs to. -/
  category : String
  /-- What it says. -/
  reason : String
deriving DecidableEq, Repr

namespace OsError

/-- The refusal in words. -/
def message (e : OsError) : String :=
  s!"{e.reason} (os error {e.code})"

/-- There is no such file, or no directory to hold it. -/
def noSuchFile : OsError := ⟨2, "NotFound", "No such file or directory"⟩

/-- The host does not let this be done. -/
def permissionDenied : OsError := ⟨13, "PermissionDenied", "Permission denied"⟩

/-- No interface can join a group. -/
def noSuchDevice : OsError := ⟨19, "Uncategorized", "No such device"⟩

/-- What should be a directory is none. -/
def notADirectory : OsError := ⟨20, "NotADirectory", "Not a directory"⟩

/-- What should be a file is a directory. -/
def isADirectory : OsError := ⟨21, "IsADirectory", "Is a directory"⟩

/-- An address is not one to listen at. -/
def invalidArgument : OsError := ⟨22, "InvalidInput", "Invalid argument"⟩

/-- A name, or a path as a whole, is too long. -/
def nameTooLong : OsError := ⟨36, "InvalidFilename", "File name too long"⟩

/-- Somebody listens there already. -/
def addressInUse : OsError := ⟨98, "AddrInUse", "Address already in use"⟩

/-- The host does not have this address. -/
def addressNotAvailable : OsError :=
  ⟨99, "AddrNotAvailable", "Cannot assign requested address"⟩

/-- No way leads to the address. -/
def networkUnreachable : OsError := ⟨101, "NetworkUnreachable", "Network is unreachable"⟩

/-- Nobody listens there. -/
def connectionRefused : OsError := ⟨111, "ConnectionRefused", "Connection refused"⟩

end OsError

end Lifecast
