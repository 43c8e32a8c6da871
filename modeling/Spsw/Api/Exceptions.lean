import Mathlib.Data.Int.Notation

/-!
# The exceptions and errors the providers raise

`ClosedByInterruptException` is a subclass of `AsynchronousCloseException`, as the
catch clauses see it; `causedBy e` is `new IOException(e)`.
-/
namespace Spsw

inductive JavaException where
  | ioException (message : String)
  | interruptedIOException (message : String) (bytesTransferred : ℤ)
  | timeoutIOException (bytesTransferred : ℤ) (message : Option String := none)
  | asynchronousCloseException
  | closedByInterruptException
  | asynchronousCancelException
  | causedBy (cause : JavaException)
  | interruptedException
  | illegalArgumentException (message : String)
  | indexOutOfBoundsException
  | nullPointerException
  | bufferOverflowException
  | bufferUnderflowException
  | runtimeException (message : String)
  | unsatisfiedLinkError
  | outOfMemoryError (message : String)
  deriving DecidableEq, Repr

namespace JavaException

def isIOException : JavaException → Bool
  | .ioException _ | .interruptedIOException _ _ | .timeoutIOException _ _ | .causedBy _
  | .asynchronousCloseException | .closedByInterruptException | .asynchronousCancelException => true
  | .interruptedException | .illegalArgumentException
      _ | .indexOutOfBoundsException | .nullPointerException
  | .bufferOverflowException | .bufferUnderflowException | .runtimeException _
  | .unsatisfiedLinkError | .outOfMemoryError _ => false

/-- What `catch (AsynchronousCloseException)` catches. -/
def isAsynchronousClose : JavaException → Bool
  | .asynchronousCloseException | .closedByInterruptException => true
  | _ => false

/-- What `catch (TimeoutIOException)` catches. -/
def isTimeout : JavaException → Bool
  | .timeoutIOException _ _ => true
  | _ => false

/-- The field `bytesTransferred` of an `InterruptedIOException`, which a `TimeoutIOException` is. -/
def bytesTransferred : JavaException → Option ℤ
  | .interruptedIOException _ bytesTransferred | .timeoutIOException bytesTransferred _ =>
      some bytesTransferred
  | _ => none

def IsIllegalArgument (e : JavaException) : Prop := ∃ message, e = .illegalArgumentException message

end JavaException

def PORT_IS_CLOSED : String := "Port is closed"

def PORT_IS_OPEN : String := "Port is open"

def PORT_FD_INVALID : String := "File descriptor of serial port is invalid"

end Spsw
