import Mathlib.Data.List.Induction
import Mathlib.Data.Int.Notation
import Mathlib.Algebra.Group.Even
import Mathlib.Tactic.IntervalCases

/-!
# The payloads of a mock's script, written in hexadecimal

Two characters are read as one byte, and one character too many is left out. A pair is
read by `Integer.parseInt`, for which the first character may be a sign.
-/
namespace Spsw.Mock

/-- The value of an ASCII hexadecimal digit. -/
def hexDigit (c : UInt16) : Option ℕ :=
  if 48 ≤ c ∧ c ≤ 57 then some (c.toNat - 48)
  else if 65 ≤ c ∧ c ≤ 70 then some (c.toNat - 55)
  else if 97 ≤ c ∧ c ≤ 102 then some (c.toNat - 87)
  else none

/-- `Character.digit(c, 16)`, for which there are digits beyond ASCII too. -/
structure CharacterDigit (digit : UInt16 → Option ℕ) : Prop where
  ascii : ∀ c < 128, digit c = hexDigit c
  below : ∀ c d, digit c = some d → d < 16

def plus : UInt16 := 43

def minus : UInt16 := 45

variable (digit : UInt16 → Option ℕ)

/-- The number that digits write, if there are only digits. -/
def magnitude (codes : List UInt16) : Option ℕ :=
  codes.foldlM (fun n c => (digit c).map (16 * n + ·)) 0

/-- Digits behind a sign, one at least, whose number is an `int`. -/
def signed (negative : Bool) (codes : List UInt16) : Option ℤ :=
  if codes = [] then none
  else (magnitude digit codes).bind fun n =>
    let value : ℤ := if negative then -n else n
    if -2 ^ 31 ≤ value ∧ value < 2 ^ 31 then some value else none

/-- `Integer.parseInt(s, 16)`; `none` stands for a `NumberFormatException`. -/
def parseInt : List UInt16 → Option ℤ
  | [] => none
  | c :: codes =>
    if c = minus then signed digit true codes
    else if c = plus then signed digit false codes
    else signed digit false (c :: codes)

def substring (s : List UInt16) (beginIndex endIndex : ℕ) : List UInt16 :=
  (s.drop beginIndex).take (endIndex - beginIndex)

def ascii2Bytes (s : List UInt16) : Option (List UInt8) :=
  (List.range (s.length / 2)).mapM fun i =>
    (parseInt digit (substring s (i * 2) (i * 2 + 2))).map UInt8.ofInt

def hexChar (n : ℕ) : UInt16 := UInt16.ofNat (if n < 10 then 48 + n else 87 + n)

/-- `String.format("%02x", b)`, in which a `byte` counts as unsigned. -/
def format (b : UInt8) : List UInt16 := [hexChar (b.toNat / 16), hexChar (b.toNat % 16)]

def bytes2Ascii (byteArray : List UInt8) : List UInt16 := byteArray.flatMap format

def toLowerCase (s : List UInt16) : List UInt16 :=
  s.map fun c => if 65 ≤ c ∧ c ≤ 90 then c + 32 else c

def HexString (s : List UInt16) : Prop := Even s.length ∧ ∀ c ∈ s, (hexDigit c).isSome

/-- What stands at the positions `2 * i` and `2 * i + 1`. -/
def pairs : List UInt16 → List (UInt16 × UInt16)
  | a :: b :: s => (a, b) :: pairs s
  | _ => []

/-- Two digits, or a sign with a digit behind it. -/
def Readable (p : UInt16 × UInt16) : Prop :=
  ((digit p.1).isSome ∨ p.1 = plus ∨ p.1 = minus) ∧ (digit p.2).isSome

section Digits
variable {digit} {c : UInt16} {d n : ℕ}

theorem ascii_forall {holds : UInt16 → Prop} (each : ∀ n < 128, holds (UInt16.ofNat n))
    (c : UInt16) (ascii : c < 128) :
    holds c := by
  have at_code := each c.toNat (UInt16.lt_iff_toNat_lt.mp ascii)
  rwa [UInt16.ofNat_toNat] at at_code

theorem hexDigit_hexChar (small : n < 16) : hexChar n < 128 ∧ hexDigit (hexChar n) = some n := by
  interval_cases n <;> decide

theorem hexDigit_ascii (read : hexDigit c = some d) : c < 128 := by
  unfold hexDigit at read
  split_ifs at read with number upper lower
  · exact UInt16.lt_of_le_of_lt number.2 (by decide)
  · exact UInt16.lt_of_le_of_lt upper.2 (by decide)
  · exact UInt16.lt_of_le_of_lt lower.2 (by decide)

theorem hexChar_hexDigit (read : hexDigit c = some d) : d < 16 ∧ toLowerCase [c] = [hexChar d] := by
  have each : ∀ c < 128, ∀ d ∈ hexDigit c, d < 16 ∧ toLowerCase [c] = [hexChar d] :=
    ascii_forall (by decide)
  exact each c (hexDigit_ascii read) d read

theorem java_hexDigit : CharacterDigit hexDigit :=
  ⟨fun _ _ => rfl, fun _ _ read => (hexChar_hexDigit read).1⟩

theorem CharacterDigit.ofHex (java : CharacterDigit digit) (read : hexDigit c = some d) :
    digit c = some d := by
  rw [java.ascii c (hexDigit_ascii read), read]

theorem CharacterDigit.hexChar (java : CharacterDigit digit) (small : n < 16) :
    digit (hexChar n) = some n :=
  java.ofHex (hexDigit_hexChar small).2

theorem CharacterDigit.not_sign (java : CharacterDigit digit) (read : digit c = some d) :
    c ≠ minus ∧ c ≠ plus := by
  constructor
  · rintro rfl
    rw [java.ascii minus (by decide)] at read
    cases read
  · rintro rfl
    rw [java.ascii plus (by decide)] at read
    cases read

end Digits

section Reading
variable {digit} {a b : UInt16} {x y : ℕ} {s : List UInt16}

theorem magnitude_one (b : UInt16) : magnitude digit [b] = digit b := by
  unfold magnitude
  cases read : digit b with
  | none => simp [read]
  | some y => simp [read]

theorem magnitude_two (readA : digit a = some x) :
    magnitude digit [a, b] = (digit b).map (16 * x + ·) := by
  unfold magnitude
  cases read : digit b with
  | none => simp [readA, read]
  | some y => simp [readA, read]

theorem signed_small {negative : Bool} {codes : List UInt16} {n : ℕ} (digits : codes ≠ [])
    (number : magnitude digit codes = some n) (small : n < 2 ^ 31) :
    signed digit negative codes = some (if negative then -(n : ℤ) else n) := by
  have range : -2 ^ 31 ≤ (if negative then -(n : ℤ) else n) ∧
      (if negative then -(n : ℤ) else n) < 2 ^ 31 := by
    split_ifs <;> omega
  rw [signed, if_neg digits, number, Option.bind_some, if_pos range]

theorem signed_isSome {negative : Bool} {codes : List UInt16}
    (read : (signed digit negative codes).isSome) :
    (magnitude digit codes).isSome := by
  unfold signed at read
  split at read
  · cases read
  · exact Option.isSome_of_isSome_bind read

/-- The number of two digits. -/
theorem parseInt_digits (java : CharacterDigit digit) (readA : digit a = some x)
    (readB : digit b = some y) :
    parseInt digit [a, b] = some ((16 * x + y : ℕ) : ℤ) := by
  have number : magnitude digit [a, b] = some (16 * x + y) := by
    rw [magnitude_two readA, readB, Option.map_some]
  have smallA := java.below a x readA
  have smallB := java.below b y readB
  rw [parseInt, if_neg (java.not_sign readA).1, if_neg (java.not_sign readA).2,
    signed_small (by simp) number (by omega)]
  rfl

theorem parseInt_sign (java : CharacterDigit digit) (sign : a = plus ∨ a = minus)
    (readB : digit b = some y) :
    (parseInt digit [a, b]).isSome := by
  have number : magnitude digit [b] = some y := (magnitude_one b).trans readB
  have small := java.below b y readB
  rcases sign with rfl | rfl
  · rw [parseInt, if_neg (by decide), if_pos rfl, signed_small (by simp) number (by omega)]
    rfl
  · rw [parseInt, if_pos rfl, signed_small (by simp) number (by omega)]
    rfl

/-- A pair is read where it is readable. -/
theorem parseInt_isSome (java : CharacterDigit digit) : (parseInt digit [a, b]).isSome ↔
    Readable digit (a, b) := by
  constructor
  · intro read
    rw [parseInt] at read
    split_ifs at read with isMinus isPlus
    · exact ⟨.inr (.inr isMinus), by simpa only [magnitude_one] using signed_isSome read⟩
    · exact ⟨.inr (.inl isPlus), by simpa only [magnitude_one] using signed_isSome read⟩
    · have number := signed_isSome read
      cases readA : digit a with
      | none => simp [magnitude, readA] at number
      | some x =>
          rw [magnitude_two readA, Option.isSome_map] at number
          exact ⟨.inl (by rw [readA]; rfl), number⟩
  · rintro ⟨digitA | sign, digitB⟩
    · obtain ⟨x, readA⟩ := Option.isSome_iff_exists.mp digitA
      obtain ⟨y, readB⟩ := Option.isSome_iff_exists.mp digitB
      rw [parseInt_digits java readA readB]
      rfl
    · obtain ⟨y, readB⟩ := Option.isSome_iff_exists.mp digitB
      exact parseInt_sign java sign readB

end Reading

section Loop
variable {digit} {a b : UInt16} {s : List UInt16}

/-- The first round of the loop, and the rounds that are left. -/
theorem ascii2Bytes_pair (a b : UInt16) (s : List UInt16) :
    ascii2Bytes digit (a :: b :: s) =
      ((parseInt digit [a, b]).map UInt8.ofInt).bind fun x =>
        (ascii2Bytes digit s).map (x :: ·) := by
  have rounds : (a :: b :: s).length / 2 = s.length / 2 + 1 := by
    rw [List.length_cons, List.length_cons]
    omega
  have behind : ∀ i, substring (a :: b :: s) ((i + 1) * 2) ((i + 1) * 2 + 2) =
      substring s (i * 2) (i * 2 + 2) := by
    intro i
    rw [substring, substring, Nat.add_sub_cancel_left, Nat.add_sub_cancel_left,
      Nat.add_mul, Nat.one_mul]
    rfl
  have first : substring (a :: b :: s) (0 * 2) (0 * 2 + 2) = [a, b] := rfl
  rw [ascii2Bytes, rounds, List.range_succ_eq_map, List.mapM_cons, List.mapM_map, first]
  simp only [Function.comp_def, Nat.succ_eq_add_one, behind]
  rw [Option.bind_eq_bind, ascii2Bytes]
  congr 1
  ext x
  rw [Option.bind_eq_bind, Option.map_eq_bind]
  rfl

theorem ascii2Bytes_one (a : UInt16) : ascii2Bytes digit [a] = some [] := by
  rw [ascii2Bytes, List.length_singleton, Nat.div_eq_of_lt (by omega)]
  rfl

/-- The loop ends where every pair is readable. -/
theorem ascii2Bytes_isSome (java : CharacterDigit digit) (s : List UInt16) :
    (ascii2Bytes digit s).isSome ↔ ∀ p ∈ pairs s, Readable digit p := by
  induction s using List.twoStepInduction with
  | nil => exact iff_of_true (by rfl) (by simp [pairs])
  | singleton a => exact iff_of_true (by rw [ascii2Bytes_one]; rfl) (by simp [pairs])
  | cons_cons a b s ih =>
      rw [ascii2Bytes_pair, pairs, List.forall_mem_cons, ← parseInt_isSome java, ← ih]
      cases parseInt digit [a, b] with
      | none => simp
      | some n => simp

theorem hexString_pair : HexString (a :: b :: s) ↔
    ((hexDigit a).isSome ∧ (hexDigit b).isSome) ∧ HexString s := by
  rw [HexString, HexString, List.length_cons, List.length_cons,
    List.forall_mem_cons, List.forall_mem_cons, Nat.even_add_one, Nat.even_add_one, not_not]
  tauto

theorem bytes2Ascii_cons (b : UInt8) (bytes : List UInt8) :
    bytes2Ascii (b :: bytes) = format b ++ bytes2Ascii bytes :=
  List.flatMap_cons

theorem ofInt_natCast (n : ℕ) : UInt8.ofInt (n : ℤ) = UInt8.ofNat n := by
  rw [UInt8.ofInt, show (2 : ℤ) ^ 8 = ((2 ^ 8 : ℕ) : ℤ) from rfl,
    ← Int.natCast_mod, Int.toNat_natCast]
  exact UInt8.ofNat_mod_size

theorem format_digits {x y : ℕ} (smallX : x < 16) (smallY : y < 16) :
    format (UInt8.ofInt ((16 * x + y : ℕ) : ℤ)) = [hexChar x, hexChar y] := by
  have value : (UInt8.ofInt ((16 * x + y : ℕ) : ℤ)).toNat = 16 * x + y := by
    rw [ofInt_natCast, UInt8.toNat_ofNat', Nat.mod_eq_of_lt (by omega)]
  have high : (16 * x + y) / 16 = x := by omega
  have low : (16 * x + y) % 16 = y := by omega
  rw [format, value, high, low]

/-- The bytes of a hexadecimal string are written as the string in lower case. -/
theorem ascii2Bytes_hexString (java : CharacterDigit digit) (hex : HexString s) :
    (ascii2Bytes digit s).map bytes2Ascii = some (toLowerCase s) := by
  induction s using List.twoStepInduction with
  | nil => rfl
  | singleton a => cases hex.1 with | _ n length => simp at length; omega
  | cons_cons a b s ih =>
      obtain ⟨⟨isDigitA, isDigitB⟩, rest⟩ := hexString_pair.mp hex
      obtain ⟨x, hexA⟩ := Option.isSome_iff_exists.mp isDigitA
      obtain ⟨y, hexB⟩ := Option.isSome_iff_exists.mp isDigitB
      obtain ⟨smallX, lowerA⟩ := hexChar_hexDigit hexA
      obtain ⟨smallY, lowerB⟩ := hexChar_hexDigit hexB
      obtain ⟨bytes, read, written⟩ := Option.map_eq_some_iff.mp (ih rest)
      rw [ascii2Bytes_pair, parseInt_digits java (java.ofHex hexA) (java.ofHex hexB), read]
      have split : toLowerCase (a :: b :: s) = toLowerCase [a] ++
        toLowerCase [b] ++ toLowerCase s := rfl
      rw [split, lowerA, lowerB, ← written]
      simp only [Option.map_some, Option.bind_some, bytes2Ascii_cons, format_digits smallX smallY]
      rfl

theorem ascii2Bytes_bytes2Ascii (java : CharacterDigit digit) (bytes : List UInt8) :
    ascii2Bytes digit (bytes2Ascii bytes) = some bytes := by
  induction bytes with
  | nil => rfl
  | cons b bytes ih =>
      have high : b.toNat / 16 < 16 := by
        have bound := b.toNat_lt
        omega
      have low : b.toNat % 16 < 16 := Nat.mod_lt _ (by omega)
      rw [bytes2Ascii_cons, format, List.cons_append, List.cons_append,
        List.nil_append, ascii2Bytes_pair,
        parseInt_digits java (java.hexChar high) (java.hexChar low), ih, Nat.div_add_mod]
      simp only [Option.map_some, Option.bind_some]
      rw [ofInt_natCast, UInt8.ofNat_toNat]

end Loop

/-- The string is refused unless it is hexadecimal, and written back in lower case if it is. -/
structure ParsedExactly (s : List UInt16) : Prop where
  accepted : (ascii2Bytes digit s).isSome ↔ HexString s
  written : HexString s → (ascii2Bytes digit s).map bytes2Ascii = some (toLowerCase s)

/-- Every byte array comes back; a string is parsed exactly where it is hexadecimal or one of its
pairs is unreadable. -/
theorem payloads_iff (java : CharacterDigit digit) :
    (∀ bytes, ascii2Bytes digit (bytes2Ascii bytes) = some bytes) ∧
    ∀ s, ParsedExactly digit s ↔ HexString s ∨ ∃ p ∈ pairs s, ¬Readable digit p := by
  refine ⟨ascii2Bytes_bytes2Ascii java, fun s => ?_⟩
  have readable := ascii2Bytes_isSome java s
  have returns : HexString s → (ascii2Bytes digit s).isSome := by
    intro hex
    rw [← Option.isSome_map, ascii2Bytes_hexString java hex]
    rfl
  constructor
  · intro exactly
    by_cases hex : HexString s
    · exact .inl hex
    · have refused := mt exactly.accepted.mp hex
      rw [readable] at refused
      push Not at refused
      exact .inr refused
  · rintro (hex | ⟨p, member, unreadable⟩)
    · exact ⟨iff_of_true (returns hex) hex, ascii2Bytes_hexString java⟩
    · have refused : ¬(ascii2Bytes digit s).isSome :=
        fun returns => unreadable (readable.mp returns p member)
      exact ⟨iff_of_false refused fun hex => refused (returns hex), ascii2Bytes_hexString java⟩

/-- The bytes 1 and 255 come back, and `01Ff` is parsed exactly. -/
theorem payloads_iff_ascii :
    ascii2Bytes hexDigit (bytes2Ascii [1, 255]) = some [1, 255] ∧
      ParsedExactly hexDigit [48, 49, 70, 102] := by
  have digits : ∀ c ∈ [48, 49, 70, 102], (hexDigit c).isSome := List.all_eq_true.mp (by decide)
  exact ⟨(payloads_iff hexDigit java_hexDigit).1 _,
    ((payloads_iff hexDigit java_hexDigit).2 _).mpr (.inl ⟨by decide, digits⟩)⟩

/-- `+f` is read as the byte 15. -/
theorem payloads_sign : ¬ParsedExactly hexDigit [plus, 102] := by
  intro exactly
  have hex := exactly.accepted.mp (by decide)
  exact absurd (hex.2 plus List.mem_cons_self) (by decide)

end Spsw.Mock
