import Spsw.Jnhw.Socket

/-!
# Reading from the descriptor

`read(ByteBuffer)`, `read()`, and the halves `startRead` and `continueRead` of
the asynchronous socket. The tail of `read(ByteBuffer)` and `continueRead` are
the same code.
-/
namespace Spsw.Jnhw
open Interaction
open Interaction.Method (locals raise iterate)

/-- A failed first attempt, other than `EAGAIN`. -/
def readRefused {α : Type} (nee : Errno) : Call α :=
  if nee = .EBADF then raise (.interruptedIOException PORT_FD_INVALID 0)
  else raise (.interruptedIOException
    ("read: read error during first invocation of read() " ++ nee.getErrnoSymbol) 0)

/-- The non blocking attempt; without data it counts as zero bytes. -/
def firstRead : Call ℤ := do
  let attempt ← Unistd.read
  match attempt with
  | .ok nread => pure nread
  | .error nee => do
      let invalid ← fdIsInvalid
      if invalid = true then raise .asynchronousCloseException
      else if nee = .EAGAIN then pure 0
      else readRefused nee

/-- Returns on `POLLIN` and throws on any other event of the port. -/
def checkReadable (port : BitVec 16) : Call Unit :=
  if port = POLLIN then pure ()
  else if port &&& POLLHUP = POLLHUP then do
    complete
    raise (.interruptedIOException PORT_FD_INVALID 0)
  else if port &&& POLLNVAL = POLLNVAL then do
    complete
    closedOrCancelled
  else do
    complete
    let fds ← pollFdsToString .read
    raise (.interruptedIOException ("read poll: received poll event fds:\n" ++ fds) 0)

def readFailed {α : Type} (nee : Errno) (message : String) : Call α := do
  let invalid ← fdIsInvalid
  if invalid = true then do
    complete
    closedOrCancelled
  else if nee = .EBADF then do
    complete
    raise (.interruptedIOException PORT_FD_INVALID 0)
  else do
    complete
    raise (.ioException (message ++ nee.getErrnoSymbol))

def pollReadFailed {α : Type} (nee : Errno) (message : String) : Call α := do
  complete
  raise (.interruptedIOException (message ++ nee.getErrnoSymbol) 0)

/-- `"Readed " + overallRead + " bytes.  Unknown Error: "` -/
def readed (overallRead : ℤ) : String :=
  "Readed " ++ toString overallRead ++ " bytes.  Unknown Error: "

/-- The read after a poll: goes on on the left while the buffer has room. -/
def readOn (overallRead : ℤ) : Call (ℤ ⊕ ℤ) := do
  let attempt ← Unistd.read
  match attempt with
  | .error nee => readFailed nee (readed overallRead)
  | .ok k => do
      let frame ← locals
      if frame.buffer.hasRemaining = true then pure (.inl (overallRead + k))
      else do
        complete
        pure (.inr (overallRead + k))

/-- The wait for the first byte. -/
def awaitFirst (s : Socket) : Call (ℤ ⊕ ℤ) := do
  let polled ← poll .read s.pollReadTimeout
  match polled with
  | .error nee => pollReadFailed nee "read poll: Error during poll errno: "
  | .ok .timeout => do
      complete
      raise (.timeoutIOException 0)
  | .ok (.ready port cancel) =>
      if cancel = POLLIN then do
        complete
        closedOrCancelled
      else do
        checkReadable port
        readOn 0

/-- The poll of the loop. An overall timeout that is over ends the loop exactly
as the timeout of `poll` does. -/
def pollForRead (s : Socket) : Option Timespec → Call (Except Errno PollResult)
  | none => poll .read s.interByteReadTimeout
  | some endTime => do
      let now ← clock_gettime
      match now with
      | .error nee => pure (.error nee)
      | .ok currentTime =>
          if remainingTimeOut endTime currentTime < 0 then pure (.ok .timeout)
          else poll .read (min s.interByteReadTimeout (remainingTimeOut endTime currentTime))

/-- One pass of the do-while loop. -/
def readRound (s : Socket) (endTime : Option Timespec) (overallRead : ℤ) : Call (ℤ ⊕ ℤ) := do
  let polled ← pollForRead s endTime
  match polled with
  | .error nee => pollReadFailed nee "read poll: Error during poll "
  | .ok .timeout => do
      complete
      pure (.inr overallRead)
  | .ok (.ready port cancel) =>
      if cancel = POLLIN then do
        complete
        pure (.inr (-1))
      else do
        checkReadable port
        readOn overallRead

/-- Waits for the first byte if there is none yet. -/
def firstWait (s : Socket) (nread : ℤ) : Call (ℤ ⊕ ℤ) :=
  if nread = 0 then awaitFirst s else pure (.inl nread)

def readLoop (s : Socket) (endTime : Option Timespec) : ℤ ⊕ ℤ → Call ℤ
  | .inl nread => iterate (readRound s endTime) nread
  | .inr nread => pure nread

def continueRead (s : Socket) (nread : ℤ) : Call ℤ := do
  let endTime ← deadline s.pollReadTimeout
  blocking (do
    let first ← firstWait s nread
    readLoop s endTime first)

def startRead : Call ℤ := do
  let frame ← locals
  if frame.buffer.hasRemaining = true then firstRead else pure 0

/-- `read(ByteBuffer)`. -/
def read (s : Socket) : Call ℤ := do
  let frame ← locals
  if frame.buffer.hasRemaining = true then do
    let nread ← firstRead
    let frame ← locals
    if frame.buffer.hasRemaining = true then continueRead s nread else pure nread
  else pure 0

/-- The second attempt of `read()`, once the descriptor is readable. -/
def retryReadByte (s : Socket) : Call ℤ := do
  let polled ← poll .read s.pollReadTimeout
  match polled with
  | .error nee => pollReadFailed nee "read poll: Error during poll errno: "
  | .ok .timeout => do
      complete
      raise (.timeoutIOException 0)
  | .ok (.ready port cancel) =>
      if cancel = POLLIN then do
        complete
        closedOrCancelled
      else do
        checkReadable port
        let attempt ← fetch 1
        match attempt with
        | .error nee => readFailed nee "read single byte - Unknown Error: "
        | .ok bytes => do
            complete
            match bytes.val with
            | b :: _ => pure b.toNat
            | [] => raise (.runtimeException "Should never ever happen!")

/-- `read()`. -/
def readByte (s : Socket) : Call ℤ := do
  let attempt ← fetch 1
  match attempt with
  | .ok bytes =>
      match bytes.val with
      | b :: _ => pure b.toNat
      | [] => blocking (retryReadByte s)
  | .error nee => do
      let invalid ← fdIsInvalid
      if invalid = true then raise .asynchronousCloseException
      else if nee = .EAGAIN then blocking (retryReadByte s)
      else readRefused nee

end Spsw.Jnhw
