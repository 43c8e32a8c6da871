import Spsw.Mock.SerialPortSocket

/-!
# Conversations that follow the script

A script is what is expected of the client, one direction after the other. The socket
keeps what is left of it as a queue of requests with a pointer into the first one.
-/
namespace Spsw.Mock
open Slices Stateful MockSerialPortSocket MockInputStream MockOutputStream

/-- A request whose payload is not empty, or what is left of one. -/
structure Expected where
  requestType : MockRequestType
  payload : List UInt8
  nonempty : payload ≠ []
  deriving DecidableEq

abbrev Script := List Expected

namespace Script

def requests (script : Script) : List MockRequest :=
  script.map fun e => ⟨e.requestType, .data e.payload⟩

/-- What is left when `n` bytes of the first request are through. -/
def after (e : Expected) (rest : Script) (n : ℕ) : Script :=
  if empty : e.payload.drop n = [] then rest else ⟨e.requestType, e.payload.drop n, empty⟩ :: rest

/-- The bytes to be read, in order. -/
def reads (script : Script) : List UInt8 :=
  script.flatMap fun e => if e.requestType = .READ then e.payload else []

/-- How much is left of the read payload that is under way. -/
def readable : Script → ℕ
  | [] => 0
  | e :: _ => if e.requestType = .READ then e.payload.length else 0

end Script

/-- What a client may do. A byte is written as `write(b & 0xFF)`. -/
inductive Action where
  | write (b : UInt8)
  | writeArray (b : List UInt8) (off len : ℕ)
  | read
  | readArray (b : List UInt8) (off len : ℕ)

namespace Script

/-- The script after bytes are written, if it expects them. -/
def afterWrites : Script → List UInt8 → Option Script
  | script, [] => some script
  | [], _ :: _ => none
  | e :: rest, b :: bytes =>
    if e.requestType = .WRITE ∧ e.payload.head? = some b then
      afterWrites (after e rest 1) bytes else none

/-- The script after an action, if it expects the action. An array that is read into has room. -/
def next : Script → Action → Option Script
  | script, .write b => script.afterWrites [b]
  | script, .writeArray b off len =>
    if off + len ≤ b.length then script.afterWrites ((b.drop off).take len) else none
  | e :: rest, .read => if e.requestType = .READ then some (after e rest 1) else none
  | e :: rest, .readArray b off len =>
    if e.requestType = .READ ∧ 1 ≤ len ∧ off + min len e.payload.length ≤ b.length then
      some (after e rest len)
    else none
  | [], .read | [], .readArray _ _ _ => none

/-- The byte that an action passes as an `int`. -/
def single : Script → Action → Option UInt8
  | _, .write b => some b
  | e :: _, .read => e.payload.head?
  | _, _ => none

def singles : Script → List Action → List UInt8
  | _, [] => []
  | script, a :: plan => (script.single a).toList ++ ((script.next a).map (singles · plan)).getD []

end Script

/-- An action, with the values that it obtains. -/
def perform : Action → MockCall (List ℤ)
  | .write b => do
    write b.toNat
    return []
  | .writeArray b off len => do
    writeArray b off len
    return []
  | .read => do
    let value ← read
    return [value]
  | .readArray b off len => do
    let (count, b') ← readArray b off len
    return ((b'.drop off).take count.toNat).map fun x => x.toNat

def play : List Action → MockCall (List ℤ)
  | [] => return []
  | a :: plan => do
    let obtained ← perform a
    let others ← play plan
    return obtained ++ others

def unsigned (bytes : List UInt8) : List ℤ := bytes.map fun b => b.toNat

/-- What has been obtained with the bytes that are left makes the script's reads, `available` tells what
is left of the payload under way, and all requests are handled once nothing is left. -/
structure Agrees (script left : Script) (obtained : List ℤ) (s : MockSerialPortSocket) : Prop where
  bytes : obtained ++ unsigned left.reads = unsigned script.reads
  available : available s = .ok left.readable s
  handled : s.factory.allRequestsHandled = true ↔ left = []

section Factory

/-- One more request that is expected, in the format of the factory. -/
def Expected.addTo (e : Expected) (digit : UInt16 → Option ℕ) (factory : MockSerialPortFactory) :
    Option MockSerialPortFactory :=
  match e.requestType with
  | .READ => factory.expectedRead digit (bytes2Ascii e.payload)
  | .WRITE => factory.expectedWrite digit (bytes2Ascii e.payload)

/-- The factory that is told the script, request by request. -/
def Script.factory (script : Script) (digit : UInt16 → Option ℕ) : Option MockSerialPortFactory :=
  script.foldlM (fun factory e => e.addTo digit factory) ⟨[]⟩

variable {digit : UInt16 → Option ℕ}

theorem addTo_data (java : CharacterDigit digit) (e : Expected) (factory : MockSerialPortFactory) :
    e.addTo digit factory = some (factory.addRequest ⟨e.requestType, .data e.payload⟩) := by
  have payload := ascii2Bytes_bytes2Ascii java e.payload
  obtain ⟨requestType, _, _⟩ := e
  cases requestType with
  | READ => rw [Expected.addTo, MockSerialPortFactory.expectedRead, payload, Option.map_some]
  | WRITE => rw [Expected.addTo, MockSerialPortFactory.expectedWrite, payload, Option.map_some]

theorem addTo_requests (java : CharacterDigit digit) (script : Script) (data : List MockRequest) :
    script.foldlM (fun factory e => e.addTo digit factory) ⟨data⟩ =
      some ⟨data ++ script.requests⟩ := by
  induction script generalizing data with
  | nil =>
      rw [Script.requests, List.map_nil, List.append_nil]
      rfl
  | cons e script ih =>
      rw [List.foldlM_cons, addTo_data java]
      refine (ih _).trans ?_
      rw [List.append_assoc]
      rfl

theorem factory_requests (java : CharacterDigit digit) (script : Script) :
    script.factory digit = some ⟨script.requests⟩ :=
  addTo_requests java script []

end Factory

/-- The socket of a factory that has been told the script lets no part of the plan fail, and
agrees with the script after each of them. -/
def AcceptedInFull (script : Script) (plan : List Action) : Prop :=
  ∀ digit, CharacterDigit digit → ∃ factory, script.factory digit = some factory ∧
    ∀ part left, part <+: plan → part.foldlM Script.next script = some left →
      ∃ obtained s, play part factory.open = .ok obtained s ∧ Agrees script left obtained s

/-- The socket stands where the script does: what is through of the first request is in front of
what is left of it. -/
inductive Represents : Script → MockSerialPortSocket → Prop
  | handled : Represents [] ⟨⟨[]⟩, true, 0, 0⟩
  | reading (done : List UInt8) (e : Expected) (rest : Script) (isRead : e.requestType = .READ) :
      Represents (e :: rest)
        ⟨⟨⟨.READ, .data (done ++ e.payload)⟩ :: rest.requests⟩, true, done.length, 0⟩
  | writing (done : List UInt8) (e : Expected) (rest : Script) (isWrite : e.requestType = .WRITE) :
      Represents (e :: rest)
        ⟨⟨⟨.WRITE, .data (done ++ e.payload)⟩ :: rest.requests⟩, true, 0, done.length⟩

section Scripts
variable {e : Expected} {rest script : Script} {n : ℕ}

theorem after_all (all : e.payload.length ≤ n) : Script.after e rest n = rest := by
  rw [Script.after, dif_pos (List.drop_eq_nil_of_le all)]

theorem drop_ne_nil (part : n < e.payload.length) : e.payload.drop n ≠ [] := by
  intro empty
  have bound := List.drop_eq_nil_iff.mp empty
  omega

theorem after_part (part : n < e.payload.length) :
    Script.after e rest n = ⟨e.requestType, e.payload.drop n, drop_ne_nil part⟩ :: rest := by
  rw [Script.after, dif_neg (drop_ne_nil part)]

theorem reads_cons (e : Expected) (rest : Script) :
    Script.reads (e :: rest) = (if e.requestType = .READ then e.payload
      else []) ++ Script.reads rest :=
  List.flatMap_cons

theorem reads_after (isRead : e.requestType = .READ) (n : ℕ) :
    e.payload.take n ++ Script.reads (Script.after e rest n) = Script.reads (e :: rest) := by
  rw [reads_cons, if_pos isRead]
  rcases Nat.lt_or_ge n e.payload.length with part | all
  · rw [after_part part, reads_cons, if_pos isRead, ← List.append_assoc, List.take_append_drop]
  · rw [after_all all, List.take_of_length_le all]

theorem reads_write (isWrite : e.requestType = .WRITE) (n : ℕ) :
    Script.reads (Script.after e rest n) = Script.reads (e :: rest) := by
  have noRead : e.requestType ≠ .READ := by
    rw [isWrite]
    decide
  rw [reads_cons, if_neg noRead, List.nil_append]
  rcases Nat.lt_or_ge n e.payload.length with part | all
  · rw [after_part part, reads_cons, if_neg noRead, List.nil_append]
  · rw [after_all all]

theorem payload_pos (e : Expected) : 0 < e.payload.length := List.length_pos_iff.mpr e.nonempty

end Scripts

section Socket
variable {e : Expected} {rest script script' : Script} {s : MockSerialPortSocket}

/-- Where no request is under way, the next one is taken from its start. -/
theorem represents_start (script : Script) : Represents script ⟨⟨script.requests⟩, true, 0, 0⟩ := by
  cases script with
  | nil => exact .handled
  | cons e rest =>
      obtain ⟨requestType, payload, nonempty⟩ := e
      cases requestType with
      | READ => exact .reading [] ⟨.READ, payload, nonempty⟩ rest rfl
      | WRITE => exact .writing [] ⟨.WRITE, payload, nonempty⟩ rest rfl

theorem represents_available (represents : Represents script s) :
    available s = .ok script.readable s := by
  cases represents with
  | handled => rfl
  | reading done e rest isRead =>
      have left : ((done ++ e.payload).length : ℤ) - done.length =
          (Script.readable (e :: rest) : ℕ) := by
        rw [Script.readable, if_pos isRead, List.length_append]
        omega
      rw [← left]
      rfl
  | writing done e rest isWrite =>
      have left : Script.readable (e :: rest) = 0 := by
        rw [Script.readable, if_neg (by rw [isWrite]; decide)]
      rw [left]
      rfl

theorem represents_handled (represents : Represents script s) :
    s.factory.allRequestsHandled = true ↔ script = [] := by
  cases represents with
  | handled => exact iff_of_true rfl rfl
  | reading done e rest isRead => exact iff_of_false Bool.false_ne_true (by simp)
  | writing done e rest isWrite => exact iff_of_false Bool.false_ne_true (by simp)

theorem withFirst_data {α : Type} (t : MockRequestType) (message : String)
    (use : List UInt8 → MockCall α) (payload : List UInt8) (data : List MockRequest)
    (readPtr writePtr : ℕ) :
    withFirst t message use ⟨⟨⟨t, .data payload⟩ :: data⟩, true, readPtr, writePtr⟩ =
      use payload ⟨⟨⟨t, .data payload⟩ :: data⟩, true, readPtr, writePtr⟩ := by
  cases t <;> rfl

theorem advance_eq (payload : List UInt8) (count : ℕ) (s : MockSerialPortSocket) :
    advance payload count s =
      if s.readPtr + count = payload.length then
        .ok () { s with factory := { data := s.factory.data.tail }, readPtr := 0 }
      else .ok () { s with readPtr := s.readPtr + count } := by
  have moved : (modify fun s => { s with readPtr := s.readPtr + count } : MockCall Unit) s =
      .ok () { s with readPtr := s.readPtr + count } := rfl
  rw [advance, bind_of_ok moved, get_bind]
  split_ifs <;> rfl

theorem advance_represents (rest : Script) (isRead : e.requestType = .READ)
    (done : List UInt8) {n : ℕ} (bound : n ≤ e.payload.length) :
    ∃ s', advance (done ++ e.payload) n
        ⟨⟨⟨.READ, .data (done ++ e.payload)⟩ :: rest.requests⟩, true, done.length, 0⟩ = .ok () s' ∧
      Represents (Script.after e rest n) s' := by
  rcases Nat.lt_or_eq_of_le bound with part | all
  · have moved := Represents.reading (done ++ e.payload.take n)
      ⟨e.requestType, e.payload.drop n, drop_ne_nil part⟩ rest isRead
    rw [List.append_assoc, List.take_append_drop, List.length_append,
      List.length_take_of_le bound] at moved
    have goesOn : done.length + n ≠ (done ++ e.payload).length := by
      rw [List.length_append]
      omega
    rw [advance_eq, if_neg goesOn, after_part part]
    exact ⟨_, rfl, moved⟩
  · have ends : done.length + n = (done ++ e.payload).length := by rw [List.length_append, all]
    rw [advance_eq, if_pos ends, after_all all.ge]
    exact ⟨_, rfl, represents_start rest⟩

/-- `read` returns the next byte, as a signed one. -/
theorem ends_read (isRead : e.requestType = .READ) {b : UInt8} (first : e.payload.head? = some b) :
    Ends (Represents (e :: rest)) read fun value s => value = toInt b ∧
      Represents (Script.after e rest 1) s := by
  intro s represents
  cases represents with
  | reading done _ _ _ =>
      have pointed : (done ++ e.payload)[done.length]? = some b := by
        rw [List.getElem?_append_right le_rfl, Nat.sub_self, ← List.head?_eq_getElem?, first]
      obtain ⟨s', moved, after⟩ := advance_represents rest isRead done (payload_pos e)
      refine ⟨toInt b, s', ?_, rfl, after⟩
      rw [MockInputStream.read, withFirst_data, get_bind]
      simp only [pointed]
      rw [bind_of_ok moved]
      rfl
  | writing _ _ _ isWrite => cases isRead.symm.trans isWrite

theorem after_min (e : Expected) (rest : Script) (n : ℕ) :
    Script.after e rest (min n e.payload.length) = Script.after e rest n := by
  rcases Nat.le_total n e.payload.length with part | all
  · rw [Nat.min_eq_left part]
  · rw [Nat.min_eq_right all, after_all le_rfl, after_all all]

/-- `read(byte[], int, int)` puts as many bytes as there are, `len` at most, to
the place asked for. -/
theorem ends_readArray (isRead : e.requestType = .READ) {b : List UInt8} {off len : ℕ}
    (room : off + min len e.payload.length ≤ b.length) :
    Ends (Represents (e :: rest)) (readArray b off len) fun r s =>
      (r.2.drop off).take r.1.toNat = e.payload.take len ∧
          Represents (Script.after e rest len) s := by
  intro s represents
  cases represents with
  | reading done _ _ _ =>
      obtain ⟨s', moved, after⟩ :=
        advance_represents rest isRead done (Nat.min_le_right len e.payload.length)
      rw [after_min] at after
      have taken : (e.payload.take (min len e.payload.length)).length = min len e.payload.length :=
        List.length_take_of_le (Nat.min_le_right _ _)
      have placed := overwrite_placed (by rwa [taken] :
        off + (e.payload.take (min len e.payload.length)).length ≤ b.length)
      have slice := placed.slice
      rw [taken] at slice
      refine ⟨(((min len e.payload.length : ℕ) : ℤ),
        overwrite b off (e.payload.take (min len e.payload.length))), s', ?_, ?_, after⟩
      · have count : (if (len : ℤ) < (done ++ e.payload).length - done.length then (len : ℤ)
            else (done ++ e.payload).length - done.length) = (min len e.payload.length : ℕ) := by
          rw [List.length_append]
          split_ifs <;> omega
        have inside : ¬((off : ℤ) < 0 ∨ ((min len e.payload.length : ℕ) : ℤ) < 0 ∨
            (b.length : ℤ) < off + (min len e.payload.length : ℕ)) := by omega
        rw [readArray, withFirst_data, get_bind]
        simp only [count]
        rw [if_neg inside, Int.toNat_natCast, Int.toNat_natCast, bind_of_ok moved, List.drop_left]
        rfl
      · rw [Int.toNat_natCast, slice]
        exact List.take_eq_take_min.symm
  | writing _ _ _ isWrite => cases isRead.symm.trans isWrite

theorem write_eq (b : ℤ) (done : List UInt8) {x : UInt8} (first : e.payload.head? = some x) :
    write b ⟨⟨⟨.WRITE, .data (done ++ e.payload)⟩ :: rest.requests⟩, true, 0, done.length⟩ =
      if b ≠ toInt x then
        .error (.unexpectedRequestError ("Not expected write data at " ++ toString done.length))
          ⟨⟨⟨.WRITE, .data (done ++ e.payload)⟩ :: rest.requests⟩, true, 0, done.length + 1⟩
      else if done.length + 1 = (done ++ e.payload).length then .ok () ⟨⟨rest.requests⟩, true, 0, 0⟩
      else .ok () ⟨⟨⟨.WRITE, .data (done ++ e.payload)⟩ :: rest.requests⟩, true, 0,
          done.length + 1⟩ := by
  have pointed : (done ++ e.payload)[done.length]? = some x := by
    rw [List.getElem?_append_right le_rfl, Nat.sub_self, ← List.head?_eq_getElem?, first]
  have moved : (modify fun s => { s with writePtr := s.writePtr + 1 } : MockCall Unit)
      ⟨⟨⟨.WRITE, .data (done ++ e.payload)⟩ :: rest.requests⟩, true, 0, done.length⟩ =
      .ok () ⟨⟨⟨.WRITE, .data (done ++ e.payload)⟩ :: rest.requests⟩, true, 0, done.length + 1⟩ :=
        rfl
  rw [write, withFirst_data, get_bind, bind_of_ok moved]
  simp only [pointed]
  split_ifs <;> rfl

theorem ends_write (isWrite : e.requestType = .WRITE) {x : UInt8}
    (first : e.payload.head? = some x) :
    Ends (Represents (e :: rest)) (write (toInt x)) fun _ s =>
      Represents (Script.after e rest 1) s := by
  intro s represents
  cases represents with
  | reading _ _ _ isRead => cases isWrite.symm.trans isRead
  | writing done _ _ _ =>
      rw [write_eq _ done first, if_neg (not_not.mpr rfl)]
      rcases Nat.lt_or_eq_of_le (payload_pos e) with part | all
      · have goesOn : done.length + 1 ≠ (done ++ e.payload).length := by
          rw [List.length_append]
          omega
        have moved := Represents.writing (done ++ e.payload.take 1)
          ⟨e.requestType, e.payload.drop 1, drop_ne_nil part⟩ rest isWrite
        rw [List.append_assoc, List.take_append_drop, List.length_append,
          List.length_take_of_le (payload_pos e)] at moved
        rw [if_neg goesOn, after_part part]
        exact ⟨(), _, rfl, moved⟩
      · have ends : done.length + 1 = (done ++ e.payload).length := by
          rw [List.length_append]
          omega
        rw [if_pos ends, after_all (by omega)]
        exact ⟨(), _, rfl, represents_start rest⟩

theorem write_refused (represents : Represents (e :: rest) s)
    (isWrite : e.requestType = .WRITE) {x : UInt8} (first : e.payload.head? = some x) {b : ℤ}
    (differs : b ≠ toInt x) : ∃ err s', write b s = .error err s' := by
  cases represents with
  | reading _ _ _ isRead => cases isWrite.symm.trans isRead
  | writing done _ _ _ =>
      rw [write_eq _ done first, if_pos differs]
      exact ⟨_, _, rfl⟩

theorem afterWrites_cons {b : UInt8} {bytes : List UInt8}
    (follows : Script.afterWrites script (b :: bytes) = some script') :
    ∃ e rest, script = e :: rest ∧ e.requestType = .WRITE ∧ e.payload.head? = some b ∧
      Script.afterWrites (Script.after e rest 1) bytes = some script' := by
  cases script with
  | nil => cases follows
  | cons e rest =>
      rw [Script.afterWrites] at follows
      split at follows
      · next expected => exact ⟨e, rest, rfl, expected.1, expected.2, follows⟩
      · cases follows

theorem afterWrites_reads {bytes : List UInt8}
    (follows : Script.afterWrites script bytes = some script') :
    script'.reads = script.reads := by
  induction bytes generalizing script with
  | nil =>
      rw [Script.afterWrites] at follows
      rw [Option.some.inj follows]
  | cons b bytes ih =>
      obtain ⟨e, rest, rfl, isWrite, _, others⟩ := afterWrites_cons follows
      rw [ih others, reads_write isWrite]

theorem ends_writes {bytes : List UInt8}
    (follows : Script.afterWrites script bytes = some script') :
    Ends (Represents script) (bytes.forM fun x => write (toInt x)) fun _ s =>
      Represents script' s := by
  induction bytes generalizing script with
  | nil =>
      rw [Script.afterWrites] at follows
      cases follows
      exact ends_pure fun s represents => represents
  | cons b bytes ih =>
      obtain ⟨e, rest, rfl, isWrite, first, others⟩ := afterWrites_cons follows
      exact ends_bind (ends_write isWrite first) fun _ => ih others

end Socket

section Plans
variable {script script' : Script} {a : Action} {plan : List Action} {s : MockSerialPortSocket}

theorem toInt_eq_iff {b : UInt8} : toInt b = b.toNat ↔ b < 128 := by
  have bound := b.toNat_lt
  have value := BitVec.toInt_eq_toNat_cond b.toBitVec
  rw [UInt8.toNat_toBitVec] at value
  rw [toInt, value, UInt8.lt_iff_toNat_lt]
  change _ ↔ b.toNat < 128
  split_ifs <;> omega

theorem unsigned_append (x y : List UInt8) : unsigned (x ++ y) = unsigned x ++ unsigned y :=
  List.map_append

/-- What an action obtains, with what is left to be read, is what was left before. -/
theorem ends_perform (follows : script.next a = some script')
    (small : ∀ b ∈ script.single a, b < 128) :
    Ends (Represents script) (perform a) fun obtained s =>
      Represents script' s ∧ obtained ++ unsigned script'.reads = unsigned script.reads := by
  cases a with
  | write b =>
      have same := afterWrites_reads follows
      obtain ⟨e, rest, rfl, isWrite, first, others⟩ := afterWrites_cons follows
      rw [Script.afterWrites] at others
      cases others
      rw [perform, ← toInt_eq_iff.mpr (small b rfl)]
      refine ends_bind (ends_write isWrite first) fun _ =>
        ends_pure fun s represents => ⟨represents, ?_⟩
      rw [List.nil_append, same]
  | writeArray b off len =>
      rw [Script.next] at follows
      split at follows
      · next inside =>
          have same := afterWrites_reads follows
          have bounds : ¬((off : ℤ) < 0 ∨ (len : ℤ) < 0 ∨ (b.length : ℤ) < off + len) := by omega
          rw [perform, writeArray, if_neg bounds, Int.toNat_natCast, Int.toNat_natCast]
          refine ends_bind (ends_writes follows) fun _ =>
            ends_pure fun s represents => ⟨represents, ?_⟩
          rw [List.nil_append, same]
      · cases follows
  | read =>
      cases script with
      | nil => cases follows
      | cons e rest =>
          rw [Script.next] at follows
          split at follows
          · next isRead =>
              cases follows
              obtain ⟨b, others, payload⟩ := List.exists_cons_of_ne_nil e.nonempty
              have first : e.payload.head? = some b := by rw [payload]; rfl
              refine ends_bind (ends_read isRead first) fun value => ends_pure ?_
              rintro s ⟨rfl, represents⟩
              refine ⟨represents, ?_⟩
              rw [← reads_after isRead 1, unsigned_append, payload,
                toInt_eq_iff.mpr (small b first)]
              rfl
          · cases follows
  | readArray b off len =>
      cases script with
      | nil => cases follows
      | cons e rest =>
          rw [Script.next] at follows
          split at follows
          · next expected =>
              obtain ⟨isRead, _, room⟩ := expected
              cases follows
              refine ends_bind (ends_readArray isRead room) fun r => ?_
              obtain ⟨count, b'⟩ := r
              refine ends_pure ?_
              rintro s ⟨region, represents⟩
              refine ⟨represents, ?_⟩
              rw [region, ← reads_after isRead len, unsigned_append]
              rfl
          · cases follows

/-- A byte that is no positive `byte` is not accepted as an `int`, and not returned as one. -/
theorem perform_large (represents : Represents script s)
    (follows : script.next a = some script') {b : UInt8} (single : script.single a = some b)
    (large : ¬b < 128) {obtained : List ℤ}
    {s' : MockSerialPortSocket} (returned : perform a s = .ok obtained s') :
    obtained ++ unsigned script'.reads ≠ unsigned script.reads := by
  have differs : (b.toNat : ℤ) ≠ toInt b := fun same => large (toInt_eq_iff.mp same.symm)
  cases a with
  | write x =>
      cases single
      obtain ⟨e, rest, rfl, isWrite, first, _⟩ := afterWrites_cons follows
      obtain ⟨err, s₁, refused⟩ := write_refused represents isWrite first differs
      rw [perform, bind_of_error refused] at returned
      cases returned
  | writeArray _ _ _ => cases single
  | read =>
      cases script with
      | nil => cases follows
      | cons e rest =>
          rw [Script.next] at follows
          split at follows
          · next isRead =>
              cases follows
              obtain ⟨x, others, payload⟩ := List.exists_cons_of_ne_nil e.nonempty
              obtain ⟨value, s₁, ok, rfl, _⟩ := ends_read isRead single s represents
              rw [perform, bind_of_ok ok] at returned
              cases returned
              intro same
              rw [← reads_after isRead 1, unsigned_append] at same
              have heads := List.append_cancel_right same
              have isHead : x = b := by
                rw [Script.single, payload] at single
                exact Option.some.inj single
              rw [payload, isHead] at heads
              exact differs (List.head_eq_of_cons_eq heads).symm
          · cases follows
  | readArray _ _ _ =>
      cases script with
      | nil => cases single
      | cons _ _ => cases single

theorem singles_cons (follows : script.next a = some script') :
    script.singles (a :: plan) = (script.single a).toList ++ script'.singles plan := by
  rw [Script.singles, follows]
  rfl

theorem singles_of_part {part : List Action} (isPrefix : part <+: plan) {b : UInt8}
    (member : b ∈ script.singles part) :
    b ∈ script.singles plan := by
  induction part generalizing script plan with
  | nil => cases member
  | cons a part ih =>
      obtain ⟨rest, rfl⟩ := isPrefix
      rw [List.cons_append]
      cases first : script.next a with
      | none =>
          rw [Script.singles, first] at member ⊢
          exact member
      | some middle =>
          rw [singles_cons first] at member ⊢
          rcases List.mem_append.mp member with now | later
          · exact List.mem_append_left _ now
          · exact List.mem_append_right _ (ih (List.prefix_append part rest) later)

theorem ends_play {final : Script} (follows : plan.foldlM Script.next script = some final)
    (small : ∀ b ∈ script.singles plan, b < 128) :
    Ends (Represents script) (play plan) fun obtained s =>
      Represents final s ∧ obtained ++ unsigned final.reads = unsigned script.reads := by
  induction plan generalizing script with
  | nil =>
      cases follows
      exact ends_pure fun s represents => ⟨represents, rfl⟩
  | cons a plan ih =>
      rw [List.foldlM_cons] at follows
      obtain ⟨middle, first, others⟩ := Option.bind_eq_some_iff.mp follows
      rw [singles_cons first] at small
      have smallFirst : ∀ b ∈ script.single a, b < 128 := fun b member =>
        small b (List.mem_append_left _ (Option.mem_toList.mpr member))
      have smallOthers : ∀ b ∈ middle.singles plan, b < 128 := fun b member =>
        small b (List.mem_append_right _ member)
      intro s represents
      obtain ⟨now, s₁, ok, represents₁, read⟩ := ends_perform first smallFirst s represents
      obtain ⟨later, s₂, ok', represents₂, read'⟩ := ih others smallOthers s₁ represents₁
      refine ⟨now ++ later, s₂, ?_, represents₂, ?_⟩
      · rw [play, bind_of_ok ok, bind_of_ok ok']
        rfl
      · rw [List.append_assoc, read', read]

/-- A part of the plan up to the first large byte fails, or obtains something else. -/
theorem play_large {final : Script} (represents : Represents script s)
    (follows : plan.foldlM Script.next script = some final) {b : UInt8}
    (member : b ∈ script.singles plan) (large : ¬b < 128) :
    ∃ part left, part <+: plan ∧ part.foldlM Script.next script = some left ∧
      ∀ obtained s', play part s = .ok obtained s' →
        obtained ++ unsigned left.reads ≠ unsigned script.reads := by
  induction plan generalizing script s with
  | nil => cases member
  | cons a plan ih =>
      rw [List.foldlM_cons] at follows
      obtain ⟨middle, first, others⟩ := Option.bind_eq_some_iff.mp follows
      rw [singles_cons first] at member
      by_cases smallFirst : ∀ x ∈ script.single a, x < 128
      · obtain ⟨now, s₁, ok, represents₁, read⟩ := ends_perform first smallFirst s represents
        have later : b ∈ middle.singles plan := by
          rcases List.mem_append.mp member with single | later
          · exact absurd (smallFirst b (Option.mem_toList.mp single)) large
          · exact later
        obtain ⟨part, left, isPrefix, reached, differs⟩ := ih represents₁ others later
        refine ⟨a :: part, left, List.cons_prefix_cons.mpr ⟨rfl, isPrefix⟩, ?_, ?_⟩
        · rw [List.foldlM_cons, first]
          exact reached
        · intro obtained s' returned same
          obtain ⟨now', s₁', ok', rest⟩ := bind_ok returned
          cases ok.symm.trans ok'
          obtain ⟨later, s₂, ok₂, last⟩ := bind_ok rest
          cases last
          rw [← read, List.append_assoc] at same
          exact differs later s' ok₂ (List.append_cancel_left same)
      · push Not at smallFirst
        obtain ⟨x, single, largeX⟩ := smallFirst
        refine ⟨[a], middle, List.cons_prefix_cons.mpr ⟨rfl, List.nil_prefix⟩, ?_, ?_⟩
        · rw [List.foldlM_cons, first]
          rfl
        · intro obtained s' returned same
          obtain ⟨now, s₁, ok, rest⟩ := bind_ok returned
          cases rest
          rw [List.append_nil] at same
          exact perform_large represents first single largeX ok same

end Plans

/-- A plan that follows the script is accepted in full exactly where every byte that is passed
as an `int`, to `write` or from `read`, is below 128. -/
theorem acceptedInFull_iff (script : Script) (plan : List Action)
    (follows : plan.foldlM Script.next script = some []) :
    AcceptedInFull script plan ↔ ∀ b ∈ script.singles plan, b < 128 := by
  have start : Represents script (MockSerialPortFactory.open ⟨script.requests⟩) :=
    represents_start script
  constructor
  · intro accepted b member
    by_contra large
    obtain ⟨part, left, isPrefix, reached, differs⟩ := play_large start follows member large
    obtain ⟨factory, told, accepted⟩ := accepted hexDigit java_hexDigit
    obtain rfl := Option.some.inj ((factory_requests java_hexDigit script).symm.trans told)
    obtain ⟨obtained, s, ok, agrees⟩ := accepted part left isPrefix reached
    exact differs obtained s ok agrees.bytes
  · intro small digit java
    refine ⟨_, factory_requests java script, fun part left isPrefix reached => ?_⟩
    have smallPart : ∀ b ∈ script.singles part, b < 128 :=
      fun b member => small b (singles_of_part isPrefix member)
    obtain ⟨obtained, s, ok, represents, bytes⟩ := ends_play reached smallPart _ start
    exact ⟨obtained, s, ok, bytes, represents_available represents, represents_handled represents⟩

/-- A written array with a large byte, then a read payload in three parts. -/
theorem acceptedInFull_alternating :
    AcceptedInFull [⟨.WRITE, [1, 255], by decide⟩, ⟨.READ, [2, 130, 3, 4], by decide⟩]
      [.writeArray [0, 1, 255] 1 2, .read, .readArray [0, 0, 0] 0 2, .readArray [9, 9] 1 8] := by
  refine (acceptedInFull_iff _ _ (by decide)).mpr ?_
  change ∀ b ∈ [2], b < 128
  exact List.forall_mem_singleton.mpr (by decide)

/-- The byte `0x80` that is expected is not accepted as `write(0x80)`. -/
theorem write_high :
    [Action.write 128].foldlM Script.next [⟨.WRITE, [128], by decide⟩] = some [] ∧
      ¬AcceptedInFull [⟨.WRITE, [128], by decide⟩] [.write 128] := by
  refine ⟨by decide, fun accepted => ?_⟩
  obtain ⟨factory, told, accepted⟩ := accepted hexDigit java_hexDigit
  obtain rfl := Option.some.inj ((factory_requests java_hexDigit _).symm.trans told)
  obtain ⟨obtained, s, ok, _⟩ := accepted [.write 128] [] List.prefix_rfl (by decide)
  cases ok

end Spsw.Mock
