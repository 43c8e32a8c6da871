import Spsw.Api.ByteBuffer
import Spsw.Api.Exceptions
import Spsw.Interaction.Method

/-!
# The system under the jnhw provider

Everything a socket call can observe of the operating system and of other
threads is a request with an arbitrary answer: the system calls, the volatile
field `fd`, and what `begin` and `end` see of interruption and closing. The
answer types say no more than the jnhw library promises.
-/
namespace Spsw.Jnhw
open Interaction

inductive Direction where
  | read
  | write
  deriving DecidableEq, Repr

inductive Errno where
  | EAGAIN
  | EBADF
  | ERANGE
  | EINVAL
  | other (symbol : String)
  deriving DecidableEq, Repr

def Errno.getErrnoSymbol : Errno → String
  | .EAGAIN => "EAGAIN"
  | .EBADF => "EBADF"
  | .ERANGE => "ERANGE"
  | .EINVAL => "EINVAL"
  | .other symbol => symbol

def POLLIN : BitVec 16 := 0x1

def POLLOUT : BitVec 16 := 0x4

def POLLHUP : BitVec 16 := 0x10

def POLLNVAL : BitVec 16 := 0x20

/-- The result 0 of `poll`, or the two `revents` under any other result. -/
inductive PollResult where
  | timeout
  | ready (port cancel : BitVec 16)
  deriving DecidableEq, Repr

structure Timespec where
  tv_sec : ℤ
  tv_nsec : ℤ
  deriving DecidableEq, Repr

inductive Request where
  | write (bytes : List UInt8)
  | read (room : ℕ)
  | poll (direction : Direction) (timeout : ℤ)
  | clockGettime
  | fdIsInvalid
  | isFdValid
  | pollFdsToString (direction : Direction)
  | begin
  | interrupted
  | channelClosed
  deriving DecidableEq, Repr

/-- `Unistd.write` accepts a part of what it is offered, `Unistd.read` fills a
part of the room; a native error leaves both alone. -/
@[reducible] def Answer : Request → Type
  | .write bytes => Except Errno (Fin (bytes.length + 1))
  | .read room => Except Errno { bytes : List UInt8 // bytes.length ≤ room }
  | .poll _ _ => Except Errno PollResult
  | .clockGettime => Except Errno Timespec
  | .fdIsInvalid => Bool
  | .isFdValid => Bool
  | .pollFdsToString _ => String
  | .begin => Unit
  | .interrupted => Bool
  | .channelClosed => Bool

@[reducible] def posix : Signature := ⟨Request, Answer⟩

instance : DecidableEq posix.Request := inferInstanceAs (DecidableEq Request)

/-- The bytes one event handed to the descriptor. -/
@[simp] def accepted : Event posix → List UInt8
  | ⟨.write bytes, .ok k⟩ => bytes.take k.val
  | _ => []

/-- The bytes one event took from the descriptor. -/
@[simp] def obtained : Event posix → List UInt8
  | ⟨.read _, .ok bytes⟩ => bytes.val
  | _ => []

def sent (h : History posix) : List UInt8 := h.flatMap accepted

def received (h : History posix) : List UInt8 := h.flatMap obtained

@[simp] theorem sent_nil : sent [] = [] := rfl

@[simp] theorem sent_append (h h' : History posix) : sent (h ++ h') = sent h ++ sent h' :=
  List.flatMap_append

@[simp] theorem sent_cons (ev : Event posix) (h : History posix) :
    sent (ev :: h) = accepted ev ++ sent h := rfl

@[simp] theorem received_nil : received [] = [] := rfl

@[simp] theorem received_append (h h' : History posix) :
    received (h ++ h') = received h ++ received h' :=
  List.flatMap_append

@[simp] theorem received_cons (ev : Event posix) (h : History posix) :
    received (ev :: h) = obtained ev ++ received h := rfl

end Spsw.Jnhw
