import Spsw.Api.Timeouts
import Spsw.Jni.WinApiSettings

/-!
# Timeouts on Windows

Windows keeps the timeouts of a port as five numbers. A read that waits for its overall
timeout alone has the largest number in two of them, which stands for no timeout between
bytes when it is read back. Both providers encode and decode them alike.
-/
namespace Spsw.Jnhw
open JavaException (illegalArgumentException runtimeException)
open Stateful

structure COMMTIMEOUTS where
  ReadIntervalTimeout : UInt32
  ReadTotalTimeoutMultiplier : UInt32
  ReadTotalTimeoutConstant : UInt32
  WriteTotalTimeoutMultiplier : UInt32
  WriteTotalTimeoutConstant : UInt32
  deriving DecidableEq, Repr

def MAXDWORD : UInt32 := 0xFFFFFFFF

/-- What is stored and the error reported, from the current and the given timeouts. -/
abbrev TimeoutsDriver := COMMTIMEOUTS → COMMTIMEOUTS → COMMTIMEOUTS × Option ℕ

/-- The timeouts of the device behind each open handle. -/
abbrev CommTimeouts := ℤ → Option COMMTIMEOUTS

abbrev Timing (α : Type) := EStateM JavaException CommTimeouts α

def GetCommTimeouts (hFile : ℤ) : Timing (Except ℕ COMMTIMEOUTS) := do
  let states ← get
  match states hFile with
  | some timeouts => pure (.ok timeouts)
  | none => pure (.error ERROR_INVALID_HANDLE)

def SetCommTimeouts (driver : TimeoutsDriver) (hFile : ℤ) (timeouts : COMMTIMEOUTS) :
    Timing (Except ℕ Unit) := do
  let states ← get
  match states hFile with
  | some current => do
      set (Function.update states hFile (some (driver current timeouts).1))
      match (driver current timeouts).2 with
      | none => pure (.ok ())
      | some errno => pure (.error errno)
  | none => pure (.error ERROR_INVALID_HANDLE)

namespace COMMTIMEOUTS

/-- The fields that every `setTimeouts` fills in; the intervals come first. -/
def fill (timeouts : COMMTIMEOUTS)
    (interByteReadTimeout overallReadTimeout overallWriteTimeout : Int32) : COMMTIMEOUTS :=
  let timeouts :=
    if interByteReadTimeout = 0 ∧ 0 < overallReadTimeout then
      { timeouts with
        ReadIntervalTimeout := MAXDWORD
        ReadTotalTimeoutMultiplier := MAXDWORD
        ReadTotalTimeoutConstant := overallReadTimeout.toUInt32 }
    else
      { timeouts with
        ReadIntervalTimeout := interByteReadTimeout.toUInt32
        ReadTotalTimeoutMultiplier := 0
        ReadTotalTimeoutConstant := overallReadTimeout.toUInt32 }
  { timeouts with
    WriteTotalTimeoutMultiplier := 0
    WriteTotalTimeoutConstant := overallWriteTimeout.toUInt32 }

/-- `(int32_t)` of a number of milliseconds. -/
def signed (milliseconds : UInt32) (overflow : String) : Except JavaException Int32 :=
  if milliseconds.toInt32 < 0 then .error (runtimeException overflow) else .ok milliseconds.toInt32

variable (timeouts : COMMTIMEOUTS)

def interByteReadTimeout : Except JavaException Int32 :=
  if timeouts.ReadIntervalTimeout = MAXDWORD ∧
    timeouts.ReadTotalTimeoutMultiplier = MAXDWORD then .ok 0
  else
    signed timeouts.ReadIntervalTimeout
      "COMMTIMEOUTS.ReadIntervalTimeout overflow from long to int occured"

def overallReadTimeout : Except JavaException Int32 :=
  signed timeouts.ReadTotalTimeoutConstant
    "COMMTIMEOUTS.ReadTotalTimeoutConstant overflow from long to int occured"

def overallWriteTimeout : Except JavaException Int32 :=
  signed timeouts.WriteTotalTimeoutConstant
    "COMMTIMEOUTS.WriteTotalTimeoutConstant overflow from long to int occured"

end COMMTIMEOUTS

/-- The outcome of a computation that leaves the handles alone. -/
def timed {α : Type} : Except JavaException α → Timing α
  | .ok a => pure a
  | .error e => throw e

namespace GenericWinSerialPortSocket
variable (driver : TimeoutsDriver) (w : GenericWinSerialPortSocket)

def getCOMMTIMEOUTS : Timing COMMTIMEOUTS := do
  let result ← GetCommTimeouts w.hFile
  match result with
  | .ok timeouts => pure timeouts
  | .error errno => throw (w.createClosedOrNativeException errno "native call to GetCommTimeouts")

/-- What is thrown for an error of `SetCommTimeouts`. -/
def setCommTimeoutsException (errno : ℕ) : JavaException :=
  if errno = ERROR_INVALID_PARAMETER then illegalArgumentException "setTimeouts: Wrong Timeouts"
  else w.createClosedOrNativeException errno "setTimeouts SetCommTimeouts"

/-- The timeouts of the device are not read before they are set. -/
def setTimeouts (interByteReadTimeout overallReadTimeout overallWriteTimeout : Int32) :
    Timing Unit := do
  timed (checkTimeouts interByteReadTimeout overallReadTimeout overallWriteTimeout)
  let commTimeouts : COMMTIMEOUTS := ⟨0, 0, 0, 0, 0⟩
  let result ← SetCommTimeouts driver w.hFile
    (commTimeouts.fill interByteReadTimeout overallReadTimeout overallWriteTimeout)
  match result with
  | .ok () => pure ()
  | .error errno => throw (w.setCommTimeoutsException errno)

def timeouts : TimeoutSocket CommTimeouts where
  setTimeouts := w.setTimeouts driver
  getInterByteReadTimeout := do
    let timeouts ← w.getCOMMTIMEOUTS
    timed timeouts.interByteReadTimeout
  getOverallReadTimeout := do
    let timeouts ← w.getCOMMTIMEOUTS
    timed timeouts.overallReadTimeout
  getOverallWriteTimeout := do
    let timeouts ← w.getCOMMTIMEOUTS
    timed timeouts.overallWriteTimeout

end GenericWinSerialPortSocket
end Spsw.Jnhw

namespace Spsw.Jni
open Jnhw
open JavaException (illegalArgumentException)
open Stateful

namespace WinSocket
variable (driver : TimeoutsDriver) (n : WinSocket)

/-- `GetCommTimeouts`, with a native error as an exception. -/
def getCOMMTIMEOUTS (message : String) : Timing COMMTIMEOUTS := do
  let result ← GetCommTimeouts n.fd
  match result with
  | .ok timeouts => pure timeouts
  | .error errno => throw (n.closedOrNative errno message)

/-- What is thrown for an error of `SetCommTimeouts`. -/
def setCommTimeoutsException (errno : ℕ) : JavaException :=
  if errno = ERROR_INVALID_PARAMETER then illegalArgumentException "setTimeouts: Wrong Timeouts"
  else n.closedOrNative errno "setTimeouts SetCommTimeouts"

/-- The timeouts of the device are read first, so a closed port is found before a wrong argument. -/
def setTimeouts (interByteReadTimeout overallReadTimeout overallWriteTimeout : Int32) :
    Timing Unit := do
  let lpCommTimeouts ← n.getCOMMTIMEOUTS "setTimeouts"
  timed (checkTimeouts interByteReadTimeout overallReadTimeout overallWriteTimeout)
  let result ← SetCommTimeouts driver n.fd
    (lpCommTimeouts.fill interByteReadTimeout overallReadTimeout overallWriteTimeout)
  match result with
  | .ok () => pure ()
  | .error errno => throw (n.setCommTimeoutsException errno)

def timeouts : TimeoutSocket CommTimeouts where
  setTimeouts := n.setTimeouts driver
  getInterByteReadTimeout := do
    let lpCommTimeouts ← n.getCOMMTIMEOUTS "getInterByteReadTimeout"
    timed lpCommTimeouts.interByteReadTimeout
  getOverallReadTimeout := do
    let lpCommTimeouts ← n.getCOMMTIMEOUTS "getOverallReadTimeout"
    timed lpCommTimeouts.overallReadTimeout
  getOverallWriteTimeout := do
    let lpCommTimeouts ← n.getCOMMTIMEOUTS "getOverallWriteTimeout"
    timed lpCommTimeouts.overallWriteTimeout

end WinSocket

section Encoding
variable {timeouts : COMMTIMEOUTS} {a b c : Int32}

/-- A number of milliseconds that is not negative keeps its value. -/
theorem signed_toUInt32 {overflow : String} (nonneg : 0 ≤ a) :
    COMMTIMEOUTS.signed a.toUInt32 overflow = .ok a :=
  if_neg (Int32.not_lt.mpr nonneg)

theorem fill_overallRead (nonneg : 0 ≤ b) : (timeouts.fill a b c).overallReadTimeout = .ok b := by
  have stored : (timeouts.fill a b c).ReadTotalTimeoutConstant = b.toUInt32 := by
    unfold COMMTIMEOUTS.fill
    split <;> rfl
  rw [COMMTIMEOUTS.overallReadTimeout, stored]
  exact signed_toUInt32 nonneg

theorem fill_overallWrite (nonneg : 0 ≤ c) : (timeouts.fill a b c).overallWriteTimeout = .ok c :=
  signed_toUInt32 nonneg

/-- The largest number is never taken for a timeout between bytes. -/
theorem fill_interByte (nonneg : 0 ≤ a) : (timeouts.fill a b c).interByteReadTimeout = .ok a := by
  unfold COMMTIMEOUTS.fill COMMTIMEOUTS.interByteReadTimeout
  split
  · next overall => exact (if_pos ⟨rfl, rfl⟩).trans (congrArg Except.ok overall.1.symm)
  · refine (if_neg ?_).trans (signed_toUInt32 nonneg)
    rintro ⟨-, multiplier⟩
    exact absurd (show (0 : UInt32) = MAXDWORD from multiplier) (by decide)

end Encoding

/-- A driver that stores exactly what it is given. -/
def TimeoutsExact (driver : TimeoutsDriver) : Prop :=
  ∀ current given, driver current given = (given, none)

/-- The methods work on the timeouts of one handle. -/
structure OnHandle (k : TimeoutSocket CommTimeouts) (handle : ℤ) : Prop where
  opened : ∀ s t, k.getInterByteReadTimeout s = .ok t s → ∃ timeouts, s handle = some timeouts
  interByte : ∀ s timeouts, s handle = some timeouts →
    k.getInterByteReadTimeout s = timed timeouts.interByteReadTimeout s
  read : ∀ s timeouts, s handle = some timeouts →
    k.getOverallReadTimeout s = timed timeouts.overallReadTimeout s
  write : ∀ s timeouts, s handle = some timeouts →
    k.getOverallWriteTimeout s = timed timeouts.overallWriteTimeout s
  accepted : ∀ s timeouts a b c, s handle = some timeouts → checkTimeouts a b c = .ok () →
    ∃ base : COMMTIMEOUTS,
      k.setTimeouts a b c s = .ok () (Function.update s handle (some (base.fill a b c)))
  refused : ∀ s timeouts a b c e, s handle = some timeouts → checkTimeouts a b c = .error e →
    k.setTimeouts a b c s = .error e s

theorem OnHandle.keepsTimeouts {k : TimeoutSocket CommTimeouts} {handle : ℤ} (on : OnHandle k handle) :
    k.KeepsTimeouts := by
  apply k.keepsTimeouts_of_refines
  constructor
  · intro call x x' s _ reports applied
    obtain ⟨timeouts, opened⟩ := on.opened s _ reports.interByteReadTimeout
    obtain ⟨passes, interByte, read, write⟩ := checkTimeouts_accepts applied
    obtain ⟨nonnegInter, nonnegRead, nonnegWrite⟩ := x'.nonneg
    rw [interByte] at nonnegInter
    rw [read] at nonnegRead
    rw [write] at nonnegWrite
    obtain ⟨base, returned⟩ := on.accepted s timeouts _ _ _ opened passes
    have there : Function.update s handle
        (some (base.fill call.interByteReadTimeout call.overallReadTimeout
        call.overallWriteTimeout)) handle = some _ := Function.update_self _ _ _
    refine ⟨_, returned, ?_, ?_, ?_⟩
    · rw [on.interByte _ _ there, fill_interByte nonnegInter, interByte]
      rfl
    · rw [on.read _ _ there, fill_overallRead nonnegRead, read]
      rfl
    · rw [on.write _ _ there, fill_overallWrite nonnegWrite, write]
      rfl
  · intro call x s _ reports none
    obtain ⟨timeouts, opened⟩ := on.opened s _ reports.interByteReadTimeout
    obtain ⟨m, refused⟩ := checkTimeouts_refuses none
    exact ⟨_, ⟨m, rfl⟩, on.refused s timeouts _ _ _ _ opened refused⟩

section Handles
variable {driver : TimeoutsDriver} {s : CommTimeouts} {timeouts given : COMMTIMEOUTS} {handle : ℤ}

theorem GetCommTimeouts_opened (opened : s handle = some timeouts) :
    GetCommTimeouts handle s = .ok (.ok timeouts) s := by
  apply get_bind.trans
  rw [opened]
  rfl

theorem GetCommTimeouts_closed (closed : s handle = none) :
    GetCommTimeouts handle s = .ok (.error ERROR_INVALID_HANDLE) s := by
  apply get_bind.trans
  rw [closed]
  rfl

theorem SetCommTimeouts_exact (exact : TimeoutsExact driver) (opened : s handle = some timeouts) :
    SetCommTimeouts driver handle given s =
      .ok (.ok ()) (Function.update s handle (some given)) := by
  apply get_bind.trans
  simp only [opened, exact timeouts given]
  rfl

theorem java_onHandle (exact : TimeoutsExact driver) (w : GenericWinSerialPortSocket) :
    OnHandle (w.timeouts driver) w.hFile := by
  have read : ∀ {s : CommTimeouts} {timeouts : COMMTIMEOUTS}, s w.hFile = some timeouts →
      w.getCOMMTIMEOUTS s = .ok timeouts s :=
        fun opened => bind_of_ok (GetCommTimeouts_opened opened)
  refine ⟨fun s t returned => ?_, fun s timeouts opened => bind_of_ok (read opened),
    fun s timeouts opened => bind_of_ok (read opened), fun s timeouts opened =>
      bind_of_ok (read opened), ?_, ?_⟩
  · cases opened : s w.hFile with
    | some timeouts => exact ⟨timeouts, rfl⟩
    | none =>
        have thrown : w.getCOMMTIMEOUTS s = _ := bind_of_ok (GetCommTimeouts_closed opened)
        cases returned.symm.trans (bind_of_error thrown)
  · intro s timeouts a b c opened passes
    have checked : timed (checkTimeouts a b c) s = .ok () s := by rw [passes]; rfl
    exact ⟨_, (bind_of_ok checked).trans (bind_of_ok (SetCommTimeouts_exact exact opened))⟩
  · intro s timeouts a b c e _ refused
    have thrown : timed (checkTimeouts a b c) s = .error e s := by rw [refused]; rfl
    exact bind_of_error thrown

theorem native_onHandle (exact : TimeoutsExact driver) (n : WinSocket) :
    OnHandle (n.timeouts driver) n.fd := by
  have read : ∀ {s : CommTimeouts} {timeouts : COMMTIMEOUTS} (message : String),
    s n.fd = some timeouts →
      n.getCOMMTIMEOUTS message s = .ok timeouts s :=
        fun message opened => bind_of_ok (GetCommTimeouts_opened opened)
  refine ⟨fun s t returned => ?_, fun s timeouts opened => bind_of_ok (read _ opened),
    fun s timeouts opened => bind_of_ok (read _ opened), fun s timeouts opened =>
      bind_of_ok (read _ opened), ?_, ?_⟩
  · cases opened : s n.fd with
    | some timeouts => exact ⟨timeouts, rfl⟩
    | none =>
        have thrown : n.getCOMMTIMEOUTS "getInterByteReadTimeout" s = _ :=
          bind_of_ok (GetCommTimeouts_closed opened)
        cases returned.symm.trans (bind_of_error thrown)
  · intro s timeouts a b c opened passes
    have checked : timed (checkTimeouts a b c) s = .ok () s := by rw [passes]; rfl
    exact ⟨timeouts, (bind_of_ok (read _ opened)).trans
      ((bind_of_ok checked).trans (bind_of_ok (SetCommTimeouts_exact exact opened)))⟩
  · intro s timeouts a b c e opened refused
    have thrown : timed (checkTimeouts a b c) s = .error e s := by rw [refused]; rfl
    exact (bind_of_ok (read _ opened)).trans (bind_of_error thrown)

end Handles

/-- Every socket keeps the timeouts through any calls with any arguments, whatever it keeps them
as: those for POSIX in three fields, those for Windows in the five numbers of the device. -/
theorem timeouts_kept : PollTimeouts.socket.KeepsTimeouts ∧
    ∀ driver, TimeoutsExact driver →
      (∀ w : GenericWinSerialPortSocket, (w.timeouts driver).KeepsTimeouts) ∧
      ∀ n : WinSocket, (n.timeouts driver).KeepsTimeouts :=
  ⟨TimeoutSocket.keepsTimeouts_of_refines _ PollTimeouts.refines, fun _ exact =>
    ⟨fun w => (java_onHandle exact w).keepsTimeouts,
      fun n => (native_onHandle exact n).keepsTimeouts⟩⟩

/-- The timeouts of the device of `COM3` as it is opened. -/
def asOpened : CommTimeouts := fun handle => if handle = 3 then some ⟨100, 0, 0, 0, 0⟩ else none

theorem timeouts_kept_asOpened :
    Follows JavaException.IsIllegalArgument
      ((⟨"COM3", 3⟩ : WinSocket).timeouts fun _ given => (given, none)).Reports
      ((⟨"COM3", 3⟩ : WinSocket).timeouts fun _ given => (given, none)).perform Timeouts.apply
      [⟨0, 500, 20⟩, ⟨5, -1, 0⟩, ⟨0, 0, 2147483647⟩] asOpened Timeouts.initial :=
  (timeouts_kept.2 (fun _ given => (given, none)) fun _ _ => rfl).2 ⟨"COM3", 3⟩ _ asOpened
    Timeouts.initial ⟨rfl, rfl, rfl⟩

end Spsw.Jni
