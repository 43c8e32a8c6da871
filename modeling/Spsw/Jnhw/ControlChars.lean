import Spsw.Jnhw.SetParams

/-!
# The characters of software flow control

`setXONChar` and `setXOFFChar` store a character as a byte, read it back as a signed one
and complain if that is another character. What they stored stays on the device.
-/
namespace Spsw.Jnhw
open JavaException (ioException runtimeException)
open Stateful

/-- Where a platform keeps the two characters. -/
structure ControlPlaces where
  VSTART : ℕ
  VSTOP : ℕ
  apart : VSTART ≠ VSTOP

/-- `(byte) c` -/
def byteOf (c : BitVec 16) : UInt8 := .ofBitVec (c.setWidth 8)

/-- `(char) b` -/
def charOf (b : UInt8) : BitVec 16 := b.toBitVec.signExtend 16

namespace PosixConfiguration
variable (places : ControlPlaces) (driver : Driver) (c : PosixConfiguration)

/-- `(char) termios.c_cc(place)` -/
def getControlChar (place : ℕ) : Configuring (BitVec 16) := do
  let termios ← c.getTermios
  pure (charOf (termios.c_cc place))

def getXONChar : Configuring (BitVec 16) := c.getControlChar places.VSTART

def getXOFFChar : Configuring (BitVec 16) := c.getControlChar places.VSTOP

def setControlChar (place : ℕ) (text complaint : String) (char : BitVec 16) : Configuring Unit := do
  let termios ← c.getTermios
  let result ← tcsetattr driver c.fd
    { termios with c_cc := Function.update termios.c_cc place (byteOf char) }
  match result with
  | .error nee => do
      let message ← c.formatMsg nee text
      throw (ioException message)
  | .ok () => do
      let read ← c.getControlChar place
      if read ≠ char then throw (runtimeException complaint) else pure ()

def setXOFFChar (char : BitVec 16) : Configuring Unit :=
  c.setControlChar driver places.VSTOP "setXOFFChar tcsetattr" "Cant't set XOFF char" char

def setXONChar (char : BitVec 16) : Configuring Unit :=
  c.setControlChar driver places.VSTART "setXONChar tcsetattr " "Cant't set XON char" char

end PosixConfiguration

inductive ControlCall where
  | setXONChar (char : BitVec 16)
  | setXOFFChar (char : BitVec 16)

namespace ControlCall

def char : ControlCall → BitVec 16
  | setXONChar char => char
  | setXOFFChar char => char

def perform (places : ControlPlaces) (driver : Driver) (c : PosixConfiguration) :
    ControlCall → Configuring Unit
  | setXONChar char => c.setXONChar places driver char
  | setXOFFChar char => c.setXOFFChar places driver char

/-- The getter of the character that the call sets. -/
def getter (places : ControlPlaces) (c : PosixConfiguration) : ControlCall → Configuring (BitVec 16)
  | setXONChar _ => c.getXONChar places
  | setXOFFChar _ => c.getXOFFChar places

/-- The getter of the other one. -/
def otherGetter (places : ControlPlaces) (c : PosixConfiguration) :
    ControlCall → Configuring (BitVec 16)
  | setXONChar _ => c.getXOFFChar places
  | setXOFFChar _ => c.getXONChar places

def place (places : ControlPlaces) : ControlCall → ℕ
  | setXONChar _ => places.VSTART
  | setXOFFChar _ => places.VSTOP

def otherPlace (places : ControlPlaces) : ControlCall → ℕ
  | setXONChar _ => places.VSTOP
  | setXOFFChar _ => places.VSTART

end ControlCall

/-- All settings of a device but one control character. -/
structure SameBut (place : ℕ) (termios termios' : StructTermios) : Prop where
  c_iflag : termios'.c_iflag = termios.c_iflag
  c_oflag : termios'.c_oflag = termios.c_oflag
  c_cflag : termios'.c_cflag = termios.c_cflag
  c_lflag : termios'.c_lflag = termios.c_lflag
  c_ispeed : termios'.c_ispeed = termios.c_ispeed
  c_ospeed : termios'.c_ospeed = termios.c_ospeed
  c_cc : ∀ i, i ≠ place → termios'.c_cc i = termios.c_cc i

/-- The character reads back, and nothing else has changed on any device. -/
structure CharSet (places : ControlPlaces) (c : PosixConfiguration) (call : ControlCall)
    (s s' : Descriptors) : Prop where
  reads : call.getter places c s' = .ok call.char s'
  other : reading (call.otherGetter places c) s' = reading (call.otherGetter places c) s
  device : ∃ termios termios', s c.fd = some termios ∧ s' c.fd = some termios' ∧
    SameBut (call.place places) termios termios'
  devices : ∀ fd, fd ≠ c.fd → s' fd = s fd

/-- What is expected of a call. -/
structure CharContract (places : ControlPlaces) (driver : Driver)
    (c : PosixConfiguration) (call : ControlCall) (s : Descriptors) : Prop where
  returned : ∀ s', call.perform places driver c s = .ok () s' → CharSet places c call s s'
  thrown : ∀ e s', call.perform places driver c s = .error e s' → s' = s
  accepts : call.char.toNat ≤ 255 → (s c.fd).isSome = true →
    ∃ s', call.perform places driver c s = .ok () s'

/-- The state a call leaves, however it ends. -/
def ControlCall.leaves (places : ControlPlaces) (driver : Driver)
    (c : PosixConfiguration) (call : ControlCall) (s : Descriptors) : Descriptors :=
  match call.perform places driver c s with
  | .ok _ s' => s'
  | .error _ s' => s'

/-- Every call of the run does what is expected of it. -/
def CharContracts (places : ControlPlaces) (driver : Driver) (c : PosixConfiguration) :
    List ControlCall → Descriptors → Prop
  | [], _ => True
  | call :: calls, s => CharContract places driver c call s ∧
      CharContracts places driver c calls (call.leaves places driver c s)

/-- A signed byte widens to the characters up to 127 and to the last 128. -/
def Signed (char : BitVec 16) : Prop := char.toNat < 128 ∨ 0xFF80 ≤ char.toNat

/-- On an open device the character is one of these, or it is above 255 and the device has its
byte already. -/
def CharHarmless (places : ControlPlaces) (c : PosixConfiguration) (call : ControlCall)
    (s : Descriptors) : Prop :=
  ∀ termios, s c.fd = some termios →
    Signed call.char ∨ 255 < call.char.toNat ∧ termios.c_cc (call.place places) = byteOf call.char

/-- All calls of the run are harmless where they are made. -/
def CharsHarmless (places : ControlPlaces) (driver : Driver) (c : PosixConfiguration) :
    List ControlCall → Descriptors → Prop
  | [], _ => True
  | call :: calls, s =>
      CharHarmless places c call s ∧ CharsHarmless places driver c calls (call.leaves
      places driver c s)

section Chars

theorem charOf_byteOf (char : BitVec 16) : charOf (byteOf char) = char ↔ Signed char := by
  have small : char.toNat < 2 ^ 16 := char.isLt
  have low : (char.setWidth 8).toNat = char.toNat % 256 := BitVec.toNat_setWidth 8 char
  have widened : (charOf (byteOf char)).toNat =
      char.toNat % 256 + if 128 ≤ char.toNat % 256 then 0xFF00 else 0 := by
    change ((char.setWidth 8).signExtend 16).toNat = _
    rw [BitVec.toNat_signExtend, BitVec.msb_eq_decide, BitVec.toNat_setWidth, low]
    simp only [decide_eq_true_eq]
    have range : char.toNat % 256 % 2 ^ 16 = char.toNat % 256 := Nat.mod_eq_of_lt (by omega)
    rw [range]
  rw [← BitVec.toNat_inj, widened, Signed]
  split
  · omega
  · omega

end Chars

section Calls
variable {places : ControlPlaces} {driver : Driver} {c : PosixConfiguration} {s : Descriptors}
  {termios : StructTermios}

theorem getControlChar_opened (opened : s c.fd = some termios) (place : ℕ) :
    c.getControlChar place s = .ok (charOf (termios.c_cc place)) s :=
  bind_of_ok (getTermios_opened opened)

/-- The device once a character is stored. -/
def storing (place : ℕ) (char : BitVec 16) (termios : StructTermios) : StructTermios :=
  { termios with c_cc := Function.update termios.c_cc place (byteOf char) }

theorem setControlChar_opened (stores : ∀ current given, driver current given = (given, none))
    (opened : s c.fd = some termios) (place : ℕ) (text complaint : String) (char : BitVec 16) :
    c.setControlChar driver place text complaint char s =
      if charOf (byteOf char) ≠ char then
        .error (.runtimeException complaint)
          (Function.update s c.fd (some (storing place char termios)))
      else .ok () (Function.update s c.fd (some (storing place char termios))) := by
  have there : Function.update s c.fd (some (storing place char termios)) c.fd =
    some (storing place char termios) :=
    Function.update_self _ _ _
  have stored : (storing place char termios).c_cc place = byteOf char := Function.update_self _ _ _
  have read := getControlChar_opened there place
  rw [stored] at read
  apply (bind_of_ok (getTermios_opened opened)).trans
  apply (bind_of_ok (tcsetattr_opened opened (stores termios (storing place char termios)))).trans
  apply (bind_of_ok read).trans
  split
  · rfl
  · rfl

variable {call : ControlCall}

theorem getter_eq (call : ControlCall) :
    call.getter places c = c.getControlChar (call.place places) := by
  cases call with
  | setXONChar char => rfl
  | setXOFFChar char => rfl

theorem otherGetter_eq (call : ControlCall) :
    call.otherGetter places c = c.getControlChar (call.otherPlace places) := by
  cases call with
  | setXONChar char => rfl
  | setXOFFChar char => rfl

theorem otherPlace_ne (call : ControlCall) : call.otherPlace places ≠ call.place places := by
  cases call with
  | setXONChar char => exact places.apart.symm
  | setXOFFChar char => exact places.apart

/-- What the call leaves on an open device, whether it throws or not. -/
def ControlCall.stores (places : ControlPlaces) (c : PosixConfiguration) (call : ControlCall)
    (termios : StructTermios) (s : Descriptors) : Descriptors :=
  Function.update s c.fd (some (storing (call.place places) call.char termios))

theorem controlCall_opened (places : ControlPlaces)
    (stores : ∀ current given, driver current given = (given, none))
    (opened : s c.fd = some termios) (call : ControlCall) : ∃ e,
    call.perform places driver c s =
      if charOf (byteOf call.char) ≠ call.char then .error e (call.stores places c termios s)
      else .ok () (call.stores places c termios s) := by
  cases call with
  | setXONChar char => exact ⟨_, setControlChar_opened stores opened places.VSTART _ _ char⟩
  | setXOFFChar char => exact ⟨_, setControlChar_opened stores opened places.VSTOP _ _ char⟩

theorem controlCall_closed (places : ControlPlaces) (driver : Driver) (closed : s c.fd = none)
    (call : ControlCall) :
    ∃ e, call.perform places driver c s = .error e s := by
  cases call with
  | setXONChar char => exact ⟨_, bind_of_error (getTermios_closed closed)⟩
  | setXOFFChar char => exact ⟨_, bind_of_error (getTermios_closed closed)⟩

theorem charSet_stores (opened : s c.fd = some termios)
    (signed : charOf (byteOf call.char) = call.char) :
    CharSet places c call s (call.stores places c termios s) := by
  have there : call.stores places c termios s c.fd =
    some (storing (call.place places) call.char termios) :=
    Function.update_self _ _ _
  have stored : (storing (call.place places) call.char termios).c_cc (call.place places) =
    byteOf call.char :=
    Function.update_self _ _ _
  have others : ∀ i, i ≠ call.place places →
      (storing (call.place places) call.char termios).c_cc i = termios.c_cc i := fun i apart =>
    Function.update_of_ne apart _ _
  refine ⟨?_, ?_, ⟨termios, _, opened, there, ⟨rfl, rfl, rfl, rfl, rfl, rfl, others⟩⟩, ?_⟩
  · rw [getter_eq, getControlChar_opened there, stored, signed]
  · have before := getControlChar_opened opened (call.otherPlace places)
    have after := getControlChar_opened there (call.otherPlace places)
    rw [others _ (otherPlace_ne call)] at after
    rw [otherGetter_eq, reading, reading, before, after]
  · exact fun fd apart => Function.update_of_ne apart _ _

/-- A character that is there already leaves the device as it was. -/
theorem stores_same (opened : s c.fd = some termios)
    (already : termios.c_cc (call.place places) = byteOf call.char) :
    call.stores places c termios s = s := by
  have same : storing (call.place places) call.char termios = termios := by
    rw [storing, ← already, Function.update_eq_self]
  rw [ControlCall.stores, same, ← opened, Function.update_eq_self]

/-- A call leaves the device as it was only if the character is there already. -/
theorem already_of_same (opened : s c.fd = some termios)
    (same : call.stores places c termios s = s) :
    termios.c_cc (call.place places) = byteOf call.char := by
  have there : call.stores places c termios s c.fd =
    some (storing (call.place places) call.char termios) :=
    Function.update_self _ _ _
  rw [same, opened] at there
  have stored := congrArg (fun termios => termios.c_cc (call.place places)) (Option.some.inj there)
  exact stored.trans (Function.update_self _ _ _)

theorem charContract_iff (stores : ∀ current given, driver current given = (given, none)) :
    CharContract places driver c call s ↔ CharHarmless places c call s := by
  cases found : s c.fd with
  | none =>
      obtain ⟨e, throws⟩ := controlCall_closed places driver found call
      constructor
      · rintro - termios opened
        cases found.symm.trans opened
      · intro harmless
        refine ⟨?_, ?_, ?_⟩
        · intro s' returned
          cases throws.symm.trans returned
        · intro e' s' thrown
          cases throws.symm.trans thrown
          rfl
        · intro small opened
          rw [found] at opened
          cases opened
  | some termios =>
      obtain ⟨e, performed⟩ := controlCall_opened places stores found call
      by_cases signed : charOf (byteOf call.char) = call.char
      · rw [if_neg (not_not_intro signed)] at performed
        refine iff_of_true ⟨?_, ?_, ?_⟩ fun _ _ => .inl ((charOf_byteOf call.char).mp signed)
        · intro s' returned
          cases performed.symm.trans returned
          exact charSet_stores found signed
        · intro e' s' thrown
          cases performed.symm.trans thrown
        · exact fun _ _ => ⟨_, performed⟩
      · rw [if_pos signed] at performed
        constructor
        · rintro contract termios' opened
          cases found.symm.trans opened
          have same := contract.thrown _ _ performed
          refine .inr ⟨?_, already_of_same found same⟩
          by_contra small
          obtain ⟨s', returned⟩ := contract.accepts (by omega) (by rw [found]; rfl)
          cases performed.symm.trans returned
        · intro harmless
          obtain ⟨large, already⟩ :=
            (harmless termios found).resolve_left (mt (charOf_byteOf call.char).mpr signed)
          refine ⟨?_, ?_, ?_⟩
          · intro s' returned
            cases performed.symm.trans returned
          · intro e' s' thrown
            cases performed.symm.trans thrown
            exact stores_same found already
          · intro small
            omega

end Calls

/-- On a driver that stores what it is given, every call of a run does what is expected exactly if
no call stores a byte that reads back as another character. -/
theorem charContracts_iff (places : ControlPlaces) (driver : Driver)
    (stores : ∀ current given, driver current given = (given, none)) (c : PosixConfiguration)
    (calls : List ControlCall) (s : Descriptors) :
    CharContracts places driver c calls s ↔ CharsHarmless places driver c calls s := by
  induction calls generalizing s with
  | nil => exact Iff.rfl
  | cons call calls ih => exact and_congr (charContract_iff stores) (ih _)

theorem charContracts_ascii : CharContracts ⟨8, 9, by decide⟩ (fun _ given => (given, none)) cuau0
    [.setXONChar 0x61, .setXOFFChar 0x7a] at9600 := by
  refine (charContracts_iff _ _ (fun _ _ => rfl) _ _ _).mpr ⟨?_, ?_, trivial⟩
  · exact fun _ _ => .inl (.inl (by decide))
  · exact fun _ _ => .inl (.inl (by decide))

/-- The character 0x80 is stored, and the setter complains that it is 0xFF80. -/
theorem setXONChar_complains : ¬∀ (places : ControlPlaces) (driver : Driver),
    (∀ current given, driver current given = (given, none)) →
      ∀ (c : PosixConfiguration) (calls : List ControlCall) (s : Descriptors),
      CharContracts places driver c calls s := by
  intro contracts
  have contract :=
    (contracts ⟨8, 9, by decide⟩ (fun _ given => (given,
    none)) (fun _ _ => rfl) cuau0 [.setXONChar 0x80] at9600).1
  obtain ⟨s', returned⟩ := contract.accepts (by decide) rfl
  cases returned

end Spsw.Jnhw
