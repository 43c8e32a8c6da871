import Spsw.Api.Exceptions
import Spsw.Loops.Collecting
import Spsw.Loops.Endless
import Mathlib.Algebra.Group.Nat.Defs
import Mathlib.Data.List.Induction
import Mathlib.Data.List.TakeWhile

/-!
# The port names in the Windows registry

`getWindowsBasedPortNames` of `WinApiCommon.c` walks over the values of a key. A pass
that neither finds a value nor the end of the key leaves the index as it is.
-/
namespace Spsw.Jni.WinApiCommon
open Loops

def ERROR_SUCCESS : ℕ := 0

def ERROR_MORE_DATA : ℕ := 234

def ERROR_NO_MORE_ITEMS : ℕ := 259

def REG_SZ : ℕ := 1

/-- What `RegEnumValueW` returns and stores; `lpData` is the whole buffer. -/
structure Enumerated where
  result : ℕ
  lpType : ℕ
  lpData : List UInt8
  lpcbData : ℕ

/-- What the loop calls: Windows on one key, and Java. `NewString` returns
`NULL` where it throws. -/
structure Environment where
  list_addID : Bool
  RegOpenKeyExW : ℕ
  RegEnumValueW : UInt32 → Enumerated
  NewString : List UInt16 → ℤ → Except JavaException (List UInt16)

/-- Wide characters in memory, the low byte first. -/
def wide : List UInt8 → List UInt16
  | lo :: hi :: bytes => (lo.toUInt16 ||| hi.toUInt16 <<< 8) :: wide bytes
  | _ => []

/-- `(int32_t) (lpcbData / sizeof (WCHAR) - 1)`, in the unsigned arithmetic of `size_t`. -/
def textLength (lpcbData : ℕ) : ℤ := ((BitVec.ofNat 64 (lpcbData / 2) - 1).setWidth 32).toInt

structure Walk where
  dwIndex : UInt32
  list : List (List UInt16)

/-- One pass of the `do` loop. -/
def pass (env : Environment) (w : Walk) : Walk ⊕ Except JavaException (List (List UInt16)) :=
  let r := env.RegEnumValueW w.dwIndex
  if r.result = ERROR_SUCCESS then
    if r.lpType = REG_SZ then
      match env.NewString (wide r.lpData) (textLength r.lpcbData) with
      | .error e => .inr (.error e)
      | .ok pName => .inl ⟨w.dwIndex + 1, w.list ++ [pName]⟩
    else .inl ⟨w.dwIndex + 1, w.list⟩
  else if r.result = ERROR_NO_MORE_ITEMS then .inr (.ok w.list)
  else .inl w

/-- `none` where the passes are used up. -/
def getWindowsBasedPortNames (env : Environment) (passes : ℕ) (list : List (List UInt16)) :
    Option (Except JavaException (List (List UInt16))) :=
  if env.list_addID = false then some (.ok list)
  else if env.RegOpenKeyExW = ERROR_SUCCESS then repeated (pass env) passes ⟨0, list⟩
  else some (.ok list)

/-- `getWindowsBasedPortNames` of `SerialPortSocketFactoryImpl`, with the library loaded. -/
def portNames (env : Environment) (passes : ℕ) :
    Option (Except JavaException (List (List UInt16))) :=
  getWindowsBasedPortNames env passes []

/-- A value of a registry key. -/
structure RegValue where
  name : List UInt16
  type : ℕ
  data : List UInt8

namespace RegValue
variable (v : RegValue)

/-- The name and its terminator fit into 256 characters, the data into 256 bytes. -/
def Fits : Prop := v.name.length < 256 ∧ v.data.length ≤ 256

instance : Decidable v.Fits := inferInstanceAs (Decidable (_ ∧ _))

/-- The text of a `REG_SZ` value ends before its first NUL. -/
def text : List UInt16 := (wide v.data).takeWhile (· ≠ 0)

/-- The wide characters are the text and one NUL. -/
def Terminated : Prop := wide v.data = v.text ++ [0]

instance : Decidable v.Terminated := inferInstanceAs (Decidable (_ = _))

end RegValue

/-- The documented behaviour of the calls for a key with these values. -/
structure Documented (env : Environment) (key : List RegValue) : Prop where
  finds : env.list_addID = true
  opens : env.RegOpenKeyExW = ERROR_SUCCESS
  success : ∀ i v, key[i.toNat]? = some v → v.Fits →
    (env.RegEnumValueW i).result = ERROR_SUCCESS ∧ (env.RegEnumValueW i).lpType = v.type ∧
      (env.RegEnumValueW i).lpcbData = v.data.length ∧
        (env.RegEnumValueW i).lpData.take v.data.length = v.data
  moreData : ∀ i v, key[i.toNat]? = some v → ¬v.Fits →
    (env.RegEnumValueW i).result = ERROR_MORE_DATA
  noMoreItems : ∀ i, key[i.toNat]? = none → (env.RegEnumValueW i).result = ERROR_NO_MORE_ITEMS
  newString : ∀ chars len, 0 ≤ len → len ≤ chars.length →
    env.NewString chars len = .ok (chars.take len.toNat)
  negative : ∀ chars len, len < 0 → ∃ e, env.NewString chars len = .error e

/-- The texts of the `REG_SZ` values that fit, in index order. -/
def texts (key : List RegValue) : List (List UInt16) :=
  (key.filter fun v => decide (v.Fits ∧ v.type = REG_SZ)).map RegValue.text

/-- The enumeration ends, with the texts of the values. -/
def Enumerates (env : Environment) (key : List RegValue) : Prop :=
  ∃ passes, ∀ more, portNames env (passes + more) = some (.ok (texts key))

section Lengths

theorem wide_length (bytes : List UInt8) : (wide bytes).length = bytes.length / 2 := by
  induction bytes using List.twoStepInduction with
  | nil => rfl
  | singleton lo => simp [wide]
  | cons_cons lo hi bytes ih =>
      rw [wide, List.length_cons, ih, List.length_cons, List.length_cons]
      omega

theorem wide_take (n : ℕ) (bytes : List UInt8) :
    wide (bytes.take (2 * n)) = (wide bytes).take n := by
  induction bytes using List.twoStepInduction generalizing n with
  | nil => simp [wide]
  | singleton lo => cases n <;> simp [wide, Nat.mul_add]
  | cons_cons lo hi bytes ih =>
      cases n with
      | zero => simp [wide]
      | succ n =>
          rw [Nat.mul_add, Nat.mul_one, List.take_succ_cons, List.take_succ_cons, wide, wide,
            List.take_succ_cons, ih]

theorem textLength_eq {n : ℕ} (small : n ≤ 256) : textLength n = (n / 2 : ℕ) - 1 := by
  have each : ∀ m ≤ 128, ((BitVec.ofNat 64 m - 1).setWidth 32).toInt = (m : ℤ) - 1 := by decide
  exact each (n / 2) (by omega)

/-- The buffer up to the length of the data is the data. -/
theorem wide_buffer {buffer data : List UInt8} (stored : buffer.take data.length = data) {n : ℕ}
    (inside : n ≤ data.length / 2) : (wide buffer).take n = (wide data).take n ∧
    n ≤ (wide buffer).length := by
  have length : data.length ≤ buffer.length := by
    have taken := congrArg List.length stored
    rw [List.length_take] at taken
    omega
  constructor
  · have prefixes : buffer.take (2 * n) = data.take (2 * n) := by
      rw [← stored, List.take_take]
      congr 1
      omega
    rw [← wide_take, prefixes, wide_take]
  · rw [wide_length]
    omega

end Lengths

section Passes
variable {env : Environment} {key : List RegValue} {i : UInt32} {v : RegValue}
  {list : List (List UInt16)}

theorem pass_unfit (documented : Documented env key)
    (here : key[i.toNat]? = some v) (unfit : ¬v.Fits) :
    pass env ⟨i, list⟩ = .inl ⟨i, list⟩ := by
  have result := documented.moreData i v here unfit
  rw [pass, result, if_neg (by decide), if_neg (by decide)]

theorem pass_end (documented : Documented env key) (past : key[i.toNat]? = none) :
    pass env ⟨i, list⟩ = .inr (.ok list) := by
  rw [pass, documented.noMoreItems i past, if_neg (by decide), if_pos rfl]

theorem pass_other (documented : Documented env key) (here : key[i.toNat]? = some v) (fits : v.Fits)
    (other : v.type ≠ REG_SZ) : pass env ⟨i, list⟩ = .inl ⟨i + 1, list⟩ := by
  obtain ⟨result, lpType, _, _⟩ := documented.success i v here fits
  rw [pass, if_pos result, if_neg (by rwa [lpType])]

/-- Of a text, all wide characters but the last are taken. -/
theorem pass_text (documented : Documented env key) (here : key[i.toNat]? = some v) (fits : v.Fits)
    (isText : v.type = REG_SZ) (nonempty : wide v.data ≠ []) :
    pass env ⟨i, list⟩ = .inl ⟨i + 1, list ++ [(wide v.data).dropLast]⟩ := by
  obtain ⟨result, lpType, lpcbData, lpData⟩ := documented.success i v here fits
  have units := wide_length v.data
  have positive := List.length_pos_iff.mpr nonempty
  obtain ⟨stored, inside⟩ := wide_buffer lpData (Nat.sub_le (v.data.length / 2) 1)
  have string := documented.newString (wide (env.RegEnumValueW i).lpData) (textLength v.data.length)
    (by rw [textLength_eq fits.2]; omega) (by rw [textLength_eq fits.2]; omega)
  have length : (textLength v.data.length).toNat = v.data.length / 2 - 1 := by
    rw [textLength_eq fits.2]
    omega
  rw [length, stored, ← units, ← List.dropLast_eq_take] at string
  rw [pass, if_pos result, if_pos (by rwa [lpType]), lpcbData, string]

/-- Of a text without a wide character, there is no string. -/
theorem pass_empty (list : List (List UInt16)) (documented : Documented env key)
    (here : key[i.toNat]? = some v) (fits : v.Fits) (isText : v.type = REG_SZ)
    (none : wide v.data = []) : ∃ e, pass env ⟨i, list⟩ = .inr (.error e) := by
  obtain ⟨result, lpType, lpcbData, _⟩ := documented.success i v here fits
  have units := wide_length v.data
  rw [none, List.length_nil] at units
  obtain ⟨e, thrown⟩ :=
    documented.negative (wide (env.RegEnumValueW i).lpData) (textLength v.data.length)
    (by rw [textLength_eq fits.2]; omega)
  refine ⟨e, ?_⟩
  rw [pass, if_pos result, if_pos (by rwa [lpType]), lpcbData, thrown]

end Passes

section Walks
variable {env : Environment} {key before rest : List RegValue} {v : RegValue}
  {list result : List (List UInt16)}

/-- What is added for a value that fits. -/
def added (v : RegValue) : List (List UInt16) :=
  if v.type = REG_SZ then [(wide v.data).dropLast] else []

/-- The walk behind the values before. -/
def walkAt (before : List RegValue) (list : List (List UInt16)) : Walk :=
  ⟨UInt32.ofNat before.length, list⟩

theorem walkAt_here (bound : (before ++ v :: rest).length < 2 ^ 32) :
    (before ++ v :: rest)[(UInt32.ofNat before.length).toNat]? = some v := by
  rw [List.length_append, List.length_cons] at bound
  rw [UInt32.toNat_ofNat',
    Nat.mod_eq_of_lt (by omega), List.getElem?_append_right (Nat.le_refl _), Nat.sub_self]
  rfl

theorem walkAt_past (bound : before.length < 2 ^ 32) :
    before[(UInt32.ofNat before.length).toNat]? = none := by
  rw [UInt32.toNat_ofNat', Nat.mod_eq_of_lt bound]
  exact List.getElem?_eq_none (Nat.le_refl _)

theorem walkAt_next (before : List RegValue) (v : RegValue) (list : List (List UInt16)) :
    (⟨UInt32.ofNat before.length + 1, list⟩ : Walk) = walkAt (before ++ [v]) list := by
  rw [walkAt, List.length_append, List.length_singleton, UInt32.ofNat_add]
  rfl

/-- A value that fits and is no empty text moves the walk on. -/
theorem pass_moves (documented : Documented env (before ++ v :: rest))
    (bound : (before ++ v :: rest).length < 2 ^ 32) (fits : v.Fits)
    (nonempty : v.type = REG_SZ → wide v.data ≠ []) :
    pass env (walkAt before list) = .inl (walkAt (before ++ [v]) (list ++ added v)) := by
  rw [← walkAt_next, added, walkAt]
  by_cases isText : v.type = REG_SZ
  · rw [if_pos isText]
    exact pass_text documented (walkAt_here bound) fits isText (nonempty isText)
  · rw [if_neg isText, List.append_nil]
    exact pass_other documented (walkAt_here bound) fits isText

/-- Where all values fit and no text is empty, the walk ends with what they add. -/
theorem walk_ends (before : List RegValue) (list : List (List UInt16))
    (documented : Documented env (before ++ rest)) (bound : (before ++ rest).length < 2 ^ 32)
    (fit : ∀ v ∈ rest, v.Fits) (nonempty : ∀ v ∈ rest, v.type = REG_SZ → wide v.data ≠ []) :
    EndsWith (pass env) (walkAt before list) (.ok (list ++ rest.flatMap added)) := by
  induction rest generalizing before list with
  | nil =>
      rw [List.append_nil] at documented bound
      rw [List.flatMap_nil, List.append_nil]
      exact endsWith_stops (pass_end documented (walkAt_past bound))
  | cons v rest ih =>
      rw [endsWith_goes (pass_moves documented bound (fit v List.mem_cons_self)
        (nonempty v List.mem_cons_self)), List.flatMap_cons, ← List.append_assoc]
      rw [List.append_cons] at documented bound
      exact ih _ _ documented bound (fun w member => fit w (List.mem_cons_of_mem v member))
        (fun w member => nonempty w (List.mem_cons_of_mem v member))

/-- A walk that ends has seen values that fit and no empty text only. -/
theorem walk_ended (before : List RegValue) (documented : Documented env (before ++ rest))
    (bound : (before ++ rest).length < 2 ^ 32)
    (ends : EndsWith (pass env) (walkAt before list) (.ok result)) :
    (∀ v ∈ rest, v.Fits) ∧ (∀ v ∈ rest, v.type = REG_SZ → wide v.data ≠ []) := by
  induction rest generalizing before list with
  | nil => exact ⟨by simp, by simp⟩
  | cons v rest ih =>
      have fits : v.Fits := by
        by_contra unfit
        exact not_endsWith_of_stays (pass_unfit documented (walkAt_here bound) unfit) ends
      have nonempty : v.type = REG_SZ → wide v.data ≠ [] := by
        intro isText none
        obtain ⟨e, stops⟩ := pass_empty list documented (walkAt_here bound) fits isText none
        cases endsWith_stopped stops ends
      rw [endsWith_goes (pass_moves documented bound fits nonempty)] at ends
      rw [List.append_cons] at documented bound
      obtain ⟨fit, others⟩ := ih _ documented bound ends
      exact ⟨List.forall_mem_cons.mpr ⟨fits, fit⟩, List.forall_mem_cons.mpr ⟨nonempty, others⟩⟩

/-- An index of 32 bits never comes to the end of a key with so many values. -/
theorem walk_endless (documented : Documented env key) (large : 2 ^ 32 ≤ key.length) (w : Walk) :
    ¬EndsWith (pass env) w (.ok result) := by
  intro ends
  have fails : ∃ e, (Except.ok result : Except JavaException (List (List UInt16))) = .error e := by
    refine ends.kept (fun _ => True) (fun r => ∃ e, r = .error e) ?_ trivial
    rintro ⟨i, list⟩ -
    have inside : i.toNat < key.length := Nat.lt_of_lt_of_le i.toNat_lt large
    have here := List.getElem?_eq_getElem inside
    by_cases fits : key[i.toNat].Fits
    · by_cases isText : key[i.toNat].type = REG_SZ
      · by_cases none : wide key[i.toNat].data = []
        · obtain ⟨e, stops⟩ := pass_empty list documented here fits isText none
          exact .inr ⟨_, stops, e, rfl⟩
        · exact .inl ⟨_, pass_text documented here fits isText none, trivial⟩
      · exact .inl ⟨_, pass_other documented here fits isText, trivial⟩
    · exact .inl ⟨_, pass_unfit documented here fits, trivial⟩
  obtain ⟨e, impossible⟩ := fails
  cases impossible

end Walks

section Texts
variable {v : RegValue} {key : List RegValue}

/-- Leaving out the last wide character leaves the text where that one is the only NUL. -/
theorem terminated_iff : v.Terminated ↔ wide v.data ≠ [] ∧ (wide v.data).dropLast = v.text := by
  constructor
  · intro terminated
    rw [RegValue.Terminated] at terminated
    rw [terminated, List.dropLast_concat]
    exact ⟨List.concat_ne_nil _ _, rfl⟩
  · rintro ⟨nonempty, same⟩
    have split := List.dropLast_append_getLast nonempty
    have before : ∀ c ∈ v.text, decide (c ≠ 0) = true := by
      intro c member
      rw [RegValue.text] at member
      exact List.mem_takeWhile_imp (p := fun c => decide (c ≠ 0)) member
    rw [same] at split
    have last : (wide v.data).getLast nonempty = 0 := by
      by_contra other
      have all : v.text = v.text ++ [(wide v.data).getLast nonempty] := by
        conv_lhs => rw [RegValue.text, ← split]
        rw [List.takeWhile_append_of_pos before]
        simp [other]
      have lengths := congrArg List.length all
      rw [List.length_append, List.length_singleton] at lengths
      omega
    rw [last] at split
    exact split.symm

theorem texts_eq (fit : ∀ v ∈ key, v.Fits) :
    texts key = key.flatMap fun v => if v.type = REG_SZ then [v.text] else [] := by
  induction key with
  | nil => rfl
  | cons v key ih =>
      have rest := ih fun w member => fit w (List.mem_cons_of_mem v member)
      rw [texts] at rest ⊢
      rw [List.flatMap_cons, ← rest, List.filter_cons]
      by_cases isText : v.type = REG_SZ
      · rw [if_pos isText, if_pos (decide_eq_true ⟨fit v List.mem_cons_self, isText⟩)]
        rfl
      · rw [if_neg isText, if_neg (by simp [isText])]
        rfl

theorem texts_added (fit : ∀ v ∈ key, v.Fits) :
    key.flatMap added = texts key ↔
      ∀ v ∈ key, v.type = REG_SZ → (wide v.data).dropLast = v.text := by
  rw [texts_eq fit, Loops.flatMap_eq_iff]
  · refine forall₂_congr fun v _ => ?_
    by_cases isText : v.type = REG_SZ
    · simp [added, isText]
    · simp [added, isText]
  · intro v
    rw [added]
    split <;> rfl

end Texts

section Example

/-- Windows on a key, with a buffer that is filled up with zeros. -/
def onKey (key : List RegValue) : Environment where
  list_addID := true
  RegOpenKeyExW := ERROR_SUCCESS
  RegEnumValueW i :=
    match key[i.toNat]? with
    | none => ⟨ERROR_NO_MORE_ITEMS, 0, List.replicate 256 0, 256⟩
    | some v =>
      if v.Fits then ⟨ERROR_SUCCESS, v.type, v.data ++ List.replicate (256 - v.data.length) 0,
        v.data.length⟩
      else ⟨ERROR_MORE_DATA, v.type, List.replicate 256 0, v.data.length⟩
  NewString chars len :=
    if len < 0 then .error (.runtimeException (toString len)) else .ok (chars.take len.toNat)

theorem onKey_documented (key : List RegValue) : Documented (onKey key) key := by
  constructor
  case finds => rfl
  case opens => rfl
  case success =>
    intro i v here fits
    have enumerated : (onKey key).RegEnumValueW i =
        ⟨ERROR_SUCCESS, v.type, v.data ++ List.replicate (256 - v.data.length) 0,
          v.data.length⟩ := by
      simp only [onKey, here, if_pos fits]
    rw [enumerated]
    exact ⟨rfl, rfl, rfl, List.take_left⟩
  case moreData =>
    intro i v here unfit
    simp only [onKey, here, if_neg unfit]
  case noMoreItems =>
    intro i past
    simp only [onKey, past]
  case newString =>
    intro chars len positive _
    exact if_neg (Int.not_lt.mpr positive)
  case negative =>
    intro chars len negative
    exact ⟨_, if_pos negative⟩

end Example

/-- The enumeration ends with the texts exactly where the values can be counted in 32 bits, all fit,
and every text is stored with one NUL behind it. -/
theorem enumerates_iff (env : Environment) (key : List RegValue) (documented : Documented env key) :
    Enumerates env key ↔
      key.length < 2 ^ 32 ∧ (∀ v ∈ key, v.Fits) ∧ ∀ v ∈ key, v.type = REG_SZ → v.Terminated := by
  have isWalk : Enumerates env key ↔ EndsWith (pass env) (walkAt [] []) (.ok (texts key)) := by
    have calls : ∀ n, portNames env n = repeated (pass env) n (walkAt [] []) := by
      intro n
      rw [portNames, getWindowsBasedPortNames, documented.finds,
        if_neg (by decide), if_pos documented.opens]
      rfl
    simp only [Enumerates, EndsWith, calls]
  rw [isWalk]
  constructor
  · intro ends
    have bound : key.length < 2 ^ 32 := by
      by_contra large
      exact walk_endless documented (Nat.not_lt.mp large) _ ends
    obtain ⟨fit, nonempty⟩ := walk_ended [] documented bound ends
    have walked := (walk_ends [] [] documented bound fit nonempty).unique ends
    have same := (texts_added fit).mp (Except.ok.inj walked)
    exact ⟨bound, fit, fun v member isText =>
      terminated_iff.mpr ⟨nonempty v member isText, same v member isText⟩⟩
  · rintro ⟨bound, fit, terminated⟩
    have walked := walk_ends [] [] documented bound fit fun v member isText =>
      (terminated_iff.mp (terminated v member isText)).1
    have same := (texts_added fit).mpr fun v member isText =>
      (terminated_iff.mp (terminated v member isText)).2
    rw [List.nil_append, same] at walked
    exact walked

/-- `COM3`, stored with its NUL, beside a number. -/
theorem enumerates_com3 :
    Enumerates (onKey [⟨[65], REG_SZ, [67, 0, 79, 0, 77, 0, 51, 0, 0, 0]⟩, ⟨[66], 4, [1, 0, 0, 0]⟩])
      [⟨[65], REG_SZ, [67, 0, 79, 0, 77, 0, 51, 0, 0, 0]⟩, ⟨[66], 4, [1, 0, 0, 0]⟩] :=
  (enumerates_iff _ _ (onKey_documented _)).mpr ⟨by decide, by decide, by decide⟩

/-- A text of 150 characters does not fit, and the walk stays where it is. -/
theorem portNames_long :
    (∀ passes, portNames (onKey [⟨[65], REG_SZ, List.replicate 300 65 ++ [0, 0]⟩]) passes = none) ∧
      ¬Enumerates (onKey [⟨[65], REG_SZ, List.replicate 300 65 ++ [0, 0]⟩])
        [⟨[65], REG_SZ, List.replicate 300 65 ++ [0, 0]⟩] := by
  have endless : ∀ passes,
      portNames (onKey [⟨[65], REG_SZ, List.replicate 300 65 ++ [0, 0]⟩]) passes = none := by
    intro passes
    have unfit : ¬RegValue.Fits ⟨[65], REG_SZ, List.replicate 300 65 ++ [0, 0]⟩ := by
      intro fits
      have length := fits.2
      rw [List.length_append, List.length_replicate] at length
      omega
    exact repeated_stays (pass_unfit (onKey_documented _) rfl unfit) passes
  refine ⟨endless, ?_⟩
  rintro ⟨passes, ends⟩
  cases (endless (passes + 0)).symm.trans (ends 0)

end Spsw.Jni.WinApiCommon
