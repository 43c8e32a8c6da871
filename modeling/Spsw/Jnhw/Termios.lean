import Spsw.Api.Settings
import Spsw.Flags.Word
import Spsw.Interaction.Stateful
import Spsw.Jnhw.System

/-!
# Termios as jnhw presents it

The constants of the platform, the functions on the structure, and the system
calls on open descriptors, each with the settings of its device. A driver decides
what `tcsetattr` stores; it may store anything and still report an error.
-/
namespace Spsw.Jnhw
open Stateful

structure StructTermios where
  c_iflag : BitVec 32
  c_oflag : BitVec 32
  c_cflag : BitVec 32
  c_lflag : BitVec 32
  c_cc : ℕ → UInt8
  c_ispeed : ℤ
  c_ospeed : ℤ

/-- `B` has the constants `B0` to `B4000000`; those above `B230400` may be undefined. -/
structure Platform where
  CSIZE : BitVec 32
  CS5 : BitVec 32
  CS6 : BitVec 32
  CS7 : BitVec 32
  CS8 : BitVec 32
  CSTOPB : BitVec 32
  PARENB : BitVec 32
  PARODD : BitVec 32
  CMSPAR : Option (BitVec 32)
  PAREXT : Option (BitVec 32)
  CRTSCTS : BitVec 32
  INPCK : BitVec 32
  IXON : BitVec 32
  IXOFF : BitVec 32
  B : Speed → Option ℤ
  standard : ∀ speed : Speed, speed.value ≤ 230400 → (B speed).isSome = true
  cfgetispeed : StructTermios → ℤ
  cfgetospeed : StructTermios → ℤ
  cfsetispeed : StructTermios → ℤ → Except Errno StructTermios
  cfsetospeed : StructTermios → ℤ → Except Errno StructTermios
  cfsetspeed : StructTermios → ℤ → Except Errno StructTermios

/-- The settings stored and the error reported, from the current and the given settings. -/
abbrev Driver := StructTermios → StructTermios → StructTermios × Option Errno

/-- The settings of the device behind each open descriptor. -/
abbrev Descriptors := ℤ → Option StructTermios

abbrev Configuring (α : Type) := EStateM JavaException Descriptors α

def tcgetattr (fd : ℤ) : Configuring (Except Errno StructTermios) := do
  let descriptors ← get
  match descriptors fd with
  | some termios => pure (.ok termios)
  | none => pure (.error .EBADF)

def tcsetattr (driver : Driver) (fd : ℤ) (termios : StructTermios) :
    Configuring (Except Errno Unit) := do
  let descriptors ← get
  match descriptors fd with
  | some current => do
      set (Function.update descriptors fd (some (driver current termios).1))
      match (driver current termios).2 with
      | none => pure (.ok ())
      | some errno => pure (.error errno)
  | none => pure (.error .EBADF)

def INVALID_FD : ℤ := -1

section Calls
variable {s : Descriptors} {fd : ℤ} {current : StructTermios}

theorem tcgetattr_opened (opened : s fd = some current) : tcgetattr fd s = .ok (.ok current) s := by
  apply get_bind.trans
  rw [opened]
  rfl

theorem tcgetattr_closed (closed : s fd = none) : tcgetattr fd s = .ok (.error .EBADF) s := by
  apply get_bind.trans
  rw [closed]
  rfl

theorem tcsetattr_opened {driver : Driver} {given stored : StructTermios}
    (opened : s fd = some current) (stores : driver current given = (stored, none)) :
    tcsetattr driver fd given s = .ok (.ok ()) (Function.update s fd (some stored)) := by
  apply get_bind.trans
  rw [opened]
  simp only [stores]
  rfl

end Calls

end Spsw.Jnhw
