/-!
# Faults of sockets and files

A fault has a kind, which decides how it is reported and what exit status it leads to, and a
text: the kind's own, or the words of whoever raised it.
-/
namespace SealedRelay

/-- Why an operation on a socket or file failed. -/
inductive Fault.Kind where
  | addressInUse
  | addressNotAvailable
  | brokenPipe
  | connectionAborted
  | connectionRefused
  | connectionReset
  | interrupted
  | invalidData
  | invalidInput
  | isADirectory
  | networkUnreachable
  | notConnected
  | notFound
  | other
  | permissionDenied
  | timedOut
  | unexpectedEnd
  | wouldBlock
  deriving DecidableEq, Repr

/-- A failed operation. -/
structure Fault where
  kind : Fault.Kind
  /-- The words of whoever raised it, if they are not the kind's own. -/
  detail : Option String := none
  deriving DecidableEq

namespace Fault

def Kind.all : List Kind :=
  [addressInUse, addressNotAvailable, brokenPipe, connectionAborted, connectionRefused,
    connectionReset, interrupted, invalidData, invalidInput, isADirectory, networkUnreachable,
    notConnected, notFound, other, permissionDenied, timedOut, unexpectedEnd, wouldBlock]

def Kind.text : Kind → String
  | addressInUse => "address in use"
  | addressNotAvailable => "address not available"
  | brokenPipe => "broken pipe"
  | connectionAborted => "connection aborted"
  | connectionRefused => "connection refused"
  | connectionReset => "connection reset"
  | interrupted => "operation interrupted"
  | invalidData => "invalid data"
  | invalidInput => "invalid input parameter"
  | isADirectory => "is a directory"
  | networkUnreachable => "network unreachable"
  | notConnected => "not connected"
  | notFound => "entity not found"
  | other => "other error"
  | permissionDenied => "permission denied"
  | timedOut => "timed out"
  | unexpectedEnd => "unexpected end of file"
  | wouldBlock => "operation would block"

def message (f : Fault) : String := f.detail.getD f.kind.text

/-- A fault that the operating system reports, with its words and number. -/
def ofSystem (kind : Kind) (words : String) (number : Nat) : Fault :=
  ⟨kind, some s!"{words} (os error {number})"⟩

/-- The address is taken. -/
def addressTaken : Fault := ofSystem .addressInUse "Address already in use" 98

/-- No interface has the address. -/
def addressUnknown : Fault := ofSystem .addressNotAvailable "Cannot assign requested address" 99

/-- No route leads to the address. -/
def unreachable : Fault := ofSystem .networkUnreachable "Network is unreachable" 101

/-- Nothing listens at the address. -/
def refused : Fault := ofSystem .connectionRefused "Connection refused" 111

/-- The operation makes no sense. -/
def invalidArgument : Fault := ofSystem .invalidInput "Invalid argument" 22

/-- There is no such interface. -/
def noDevice : Fault := ofSystem .other "No such device" 19

/-- A name has a NUL character in it. -/
def nulInside : Fault := ⟨.invalidInput, some "file name contained an unexpected NUL byte"⟩

def noSuchFile : Fault := ofSystem .notFound "No such file or directory" 2

def directory : Fault := ofSystem .isADirectory "Is a directory" 21

def notDirectory : Fault := ofSystem .other "Not a directory" 20

/-- A path or a part of it is too long. -/
def longName : Fault := ofSystem .other "File name too long" 36

/-- The file does not hold text. -/
def notText : Fault := ⟨.invalidData, some "stream did not contain valid UTF-8"⟩

/-- The peer ended the stream in the middle of something. -/
def earlyEnd : Fault := ⟨.unexpectedEnd, some "early eof"⟩

end Fault

end SealedRelay
