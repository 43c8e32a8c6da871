import Spsw.Jnhw.PosixConfiguration

/-!
# Raw mode

What both POSIX providers make of the settings of a device they open, before they set
the parameters asked for: raw mode, with all other flags preserved.
-/
namespace Spsw.Jnhw
open JavaException (ioException)

/-- The other flags of the platform, and two of its control characters. -/
structure RawFlags where
  IGNBRK : BitVec 32
  BRKINT : BitVec 32
  PARMRK : BitVec 32
  ISTRIP : BitVec 32
  INLCR : BitVec 32
  IGNCR : BitVec 32
  ICRNL : BitVec 32
  OPOST : BitVec 32
  ECHO : BitVec 32
  ECHONL : BitVec 32
  ICANON : BitVec 32
  ISIG : BitVec 32
  IEXTEN : BitVec 32
  CREAD : BitVec 32
  CLOCAL : BitVec 32
  HUPCL : BitVec 32
  VMIN : ℕ
  VTIME : ℕ

/-- `CLOCAL` is set so that the port can be opened again without `O_NONBLOCK`. -/
def Platform.rawMode (p : Platform) (raw : RawFlags) (termios : StructTermios) : StructTermios :=
  { termios with
    c_iflag := termios.c_iflag &&&
      ~~~(raw.IGNBRK ||| raw.BRKINT ||| raw.PARMRK ||| raw.ISTRIP ||| raw.INLCR |||
      raw.IGNCR ||| raw.ICRNL ||| p.IXON)
    c_oflag := termios.c_oflag &&& ~~~raw.OPOST
    c_lflag := termios.c_lflag &&& ~~~(raw.ECHO ||| raw.ECHONL ||| raw.ICANON ||| raw.ISIG ||| raw.IEXTEN)
    c_cflag := termios.c_cflag &&& ~~~(p.CSIZE ||| p.PARENB) ||| p.CS8 ||| raw.CREAD |||
      raw.CLOCAL ||| raw.HUPCL
    c_cc := Function.update (Function.update termios.c_cc raw.VMIN 0) raw.VTIME 0 }

def ENOTTY : Errno := .other "ENOTTY"

/-- `open` on the descriptor it obtained, up to `tcflush`. -/
def PosixConfiguration.openParams (p : Platform) (raw : RawFlags) (driver : Driver)
    (c : PosixConfiguration) (r : Params) : Configuring Unit := do
  let result ← tcgetattr c.fd
  match result with
  | .error nee =>
      if nee = ENOTTY then throw (ioException ("Not a serial port: \"" ++ c.portName ++ "\""))
      else throw (ioException ("open tcgetattr " ++ nee.getErrnoSymbol))
  | .ok termios => c.setParamsOn p driver (p.rawMode raw termios) r

end Spsw.Jnhw
