import Spsw.Interaction.Total
import Spsw.Jni.Write

/-!
# The output stream over the native library

`SerialOutputStream` has three ways to write, and each calls a native method of its
own. A native method is the exported C function that carries its mangled name; without
one a call of it throws an `UnsatisfiedLinkError`.
-/
namespace Spsw.Jni
open Interaction
open Interaction.Method (raise tryCatch mends mends_mono)
open Jnhw

inductive ByteOrder where
  | little
  | big
  deriving DecidableEq, Repr

/-- The machine: its byte order, and for which sizes `malloc` finds memory. -/
structure Machine where
  order : ByteOrder
  malloc : ℕ → Bool

/-- The `i`-th byte of a `jint`, the lowest first. -/
def byteAt (b : BitVec 32) (i : ℕ) : UInt8 := ⟨b.extractLsb' (8 * i) 8⟩

/-- A `jint` in memory. -/
def ByteOrder.memory : ByteOrder → BitVec 32 → List UInt8
  | .little, b => [byteAt b 0, byteAt b 1, byteAt b 2, byteAt b 3]
  | .big, b => [byteAt b 3, byteAt b 2, byteAt b 1, byteAt b 0]

/-- A `byte[]`, whose length is a Java `int`. -/
abbrev JavaArray := { bytes : List UInt8 // bytes.length < 2 ^ 31 }

section Native
variable (m : Machine) (s : NativeSocket)

def MAX_STACK_BUF_SIZE : ℤ := 8192

def GetByteArrayRegion (bytes : JavaArray) (off len : ℤ) : Option (List UInt8) :=
  if 0 ≤ off ∧ 0 ≤ len ∧ off + len ≤ bytes.val.length then
    some ((bytes.val.drop off.toNat).take len.toNat)
  else none

def writeBytes_ArgsOK (bytes : JavaArray) (off len : ℤ) : Call Unit :=
  if MAX_STACK_BUF_SIZE < len ∧ m.malloc len.toNat = false then
    raise (.outOfMemoryError "Can`t aquire native memory")
  else match GetByteArrayRegion bytes off len with
    | none => raise .indexOutOfBoundsException
    | some buf => do
        let _ ← writeBuffer s buf
        pure ()

def writeBytes (bytes : JavaArray) : Call Unit := do
  let _ ← writeBuffer s bytes.val
  pure ()

/-- `writeBuffer(env, sps, &b, 1)`: the first byte of the `jint` in memory. -/
def writeSingle (b : BitVec 32) : Call Unit := do
  let _ ← writeBuffer s ((m.order.memory b).take 1)
  pure ()

end Native

section Linking

/-- An exported function, by its arguments. -/
inductive NativeFunction where
  | region (f : JavaArray → ℤ → ℤ → Call Unit)
  | array (f : JavaArray → Call Unit)
  | int (f : BitVec 32 → Call Unit)
  | buffer (f : ByteBuffer → Call ℕ)

/-- The writing functions that the library exports. -/
def exported (m : Machine) (s : NativeSocket) : List (List Char × NativeFunction) := [
  ("Java_de_ibapl_spsw_jniprovider_AbstractSerialPortSocket_writeBytes_1ArgsOK___3BII".toList,
    .region (writeBytes_ArgsOK m s)),
  ("Java_de_ibapl_spsw_jniprovider_AbstractSerialPortSocket_write_1ArgsOK".toList,
    .buffer (write_ArgsOK s)),
    ("Java_de_ibapl_spsw_jniprovider_AbstractSerialPortSocket_writeBytes___3B".toList,
    .array (writeBytes s)),
    ("Java_de_ibapl_spsw_jniprovider_AbstractSerialPortSocket_writeSingle".toList,
    .int (writeSingle m s))]

def mangleChar : Char → List Char
  | '_' => ['_', '1']
  | ';' => ['_', '2']
  | '[' => ['_', '3']
  | '/' => ['_']
  | c => [c]

def mangle (name : String) : List Char := name.toList.flatMap mangleChar

def shortName (method : String) : List Char :=
  "Java_".toList ++ mangle "de/ibapl/spsw/jniprovider/AbstractSerialPortSocket" ++ '_' ::
    mangle method

/-- The name that also has the arguments, for overloaded methods. -/
def longName (method arguments : String) : List Char :=
  shortName method ++ "__".toList ++ mangle arguments

/-- The function a native method is bound to: by its short name, else by its long one. -/
def bound (m : Machine) (s : NativeSocket) (method arguments : String) : Option NativeFunction :=
  ((exported m s).lookup (shortName method)).orElse fun _ =>
    (exported m s).lookup (longName method arguments)

namespace AbstractSerialPortSocket

def writeBytes_ParamsOK (m : Machine) (s : NativeSocket) (b : JavaArray) (off len : ℤ) :
    Call Unit :=
  match bound m s "writeBytes_ParamsOK" "[BII" with
  | some (.region f) => f b off len
  | _ => raise .unsatisfiedLinkError

def writeBytes (m : Machine) (s : NativeSocket) (b : JavaArray) : Call Unit :=
  match bound m s "writeBytes" "[B" with
  | some (.array f) => f b
  | _ => raise .unsatisfiedLinkError

def writeSingle (m : Machine) (s : NativeSocket) (b : BitVec 32) : Call Unit :=
  match bound m s "writeSingle" "I" with
  | some (.int f) => f b
  | _ => raise .unsatisfiedLinkError

end AbstractSerialPortSocket

variable (m : Machine) (s : NativeSocket)

/-- What the virtual machine binds the methods to. No exported function has the name of
the first: the library calls it `ArgsOK`. -/
theorem linked :
    (∀ b off len, AbstractSerialPortSocket.writeBytes_ParamsOK m s b off len =
      raise .unsatisfiedLinkError) ∧
    (∀ b, AbstractSerialPortSocket.writeBytes m s b = writeBytes s b) ∧
    ∀ b, AbstractSerialPortSocket.writeSingle m s b = writeSingle m s b :=
  ⟨fun _ _ _ => rfl, fun _ => rfl, fun _ => rfl⟩

end Linking

namespace SerialOutputStream
variable (m : Machine) (s : NativeSocket)

/-- `begin(); call; completed = true;` with its `catch (IOException e)`, and `end(completed)`. -/
def interruptible (call : Call Unit) : Call Unit :=
  blocking (tryCatch (do
      call
      complete)
    (fun e => if e.isIOException = true then do
        complete
        raise e
      else raise e))

/-- `write(int)` -/
def writeInt (b : BitVec 32) : Call Unit :=
  interruptible (AbstractSerialPortSocket.writeSingle m s b)

/-- `write(byte[])` -/
def writeArray (b : JavaArray) : Call Unit :=
  if b.val.length = 0 then pure ()
  else interruptible (AbstractSerialPortSocket.writeBytes m s b)

/-- `write(byte[], int, int)` -/
def writeRegion (b : JavaArray) (off len : ℤ) : Call Unit :=
  if off < 0 ∨ off > b.val.length ∨ len < 0 ∨ toInt (off + len) > b.val.length ∨
      toInt (off + len) < 0 then
    raise .indexOutOfBoundsException
  else if len = 0 then pure ()
  else interruptible (AbstractSerialPortSocket.writeBytes_ParamsOK m s b off len)

end SerialOutputStream
end Spsw.Jni
