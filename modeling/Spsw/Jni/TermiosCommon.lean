import Spsw.Jni.TermiosSettings
import Spsw.Jnhw.RawMode

/-!
# `TermiosCommon.c`

`open0` puts the device into raw mode and sets the parameters of the bit set, if there
are any.
-/
namespace Spsw.Jni
open Jnhw
open JavaException (ioException)

/-- The parameters of a request, OR-ed into one int. -/
def toBitSet (r : Params) : BitVec 32 :=
  r.speed.elim 0#32 SPEED ||| r.dataBits.elim 0#32 DATA_BITS ||| r.stopBits.elim 0#32 STOP_BITS |||
    r.parity.elim 0#32 PARITY ||| r.flowControls.elim 0#32 flowControlsToBitSet

def rawMode (p : Platform) (raw : RawFlags) (settings : StructTermios) : StructTermios :=
  { settings with
    c_iflag := settings.c_iflag &&&
      ~~~(raw.IGNBRK ||| raw.BRKINT ||| raw.PARMRK ||| raw.ISTRIP ||| raw.INLCR |||
      raw.IGNCR ||| raw.ICRNL ||| p.IXON)
    c_oflag := settings.c_oflag &&& ~~~raw.OPOST
    c_lflag := settings.c_lflag &&& ~~~(raw.ECHO ||| raw.ECHONL ||| raw.ICANON ||| raw.ISIG ||| raw.IEXTEN)
    c_cflag := settings.c_cflag &&& ~~~(p.CSIZE ||| p.PARENB) |||
      (p.CS8 ||| raw.CREAD ||| raw.CLOCAL ||| raw.HUPCL)
    c_cc := Function.update (Function.update settings.c_cc raw.VMIN 0) raw.VTIME 0 }

/-- `open0` on the descriptor it obtained, up to `tcflush`. -/
def TermiosSocket.openParams (p : Platform) (raw : RawFlags) (driver : Driver) (n : TermiosSocket)
    (paramBitSet : BitVec 32) : Configuring Unit := do
  let result ← tcgetattr n.fd
  match result with
  | .error errno =>
      if errno = ENOTTY then throw (ioException ("Not a serial port: \"" ++ n.portName ++ "\""))
      else throw (n.nativeError errno "open tcgetattr")
  | .ok settings =>
      if paramBitSet ≠ NO_PARAMS_TO_SET then
        n.setParams p driver (rawMode p raw settings) paramBitSet
      else do
        let result ← tcsetattr driver n.fd (rawMode p raw settings)
        match result with
        | .error errno => throw (n.nativeError errno "Can't call tcsetattr TCSANOW")
        | .ok () => pure ()

end Spsw.Jni
