import Spsw.Escaping.Introducer
import Spsw.Interaction.Stateful
import Spsw.Logging.LogWriter

/-!
# The text of a log in ASCII mode

Between the quotes of a line each byte is written as a code writes it: some bytes as a
letter behind a backslash, the others as they are, a backslash among these.
-/
namespace Spsw.Logging
open Escaping Stateful

/-- What stands behind the backslash for a byte: the codes of `f`, `b`, `n`, `r`, `t` and of the
two quotes. -/
def behindBackslash (b : UInt8) : Option UInt8 :=
  if b = 12 then some 102
  else if b = 8 then some 98
  else if b = 10 then some 110
  else if b = 13 then some 114
  else if b = 9 then some 116
  else if b = 39 then some 39
  else if b = 34 then some 34
  else none

/-- The byte for which a code stands behind the backslash. -/
def forLetter (c : UInt8) : UInt8 :=
  if c = 102 then 12
  else if c = 98 then 8
  else if c = 110 then 10
  else if c = 114 then 13
  else if c = 116 then 9
  else c

theorem forLetter_behind {b c : UInt8} (escaped : behindBackslash b = some c) :
    b = forLetter c ∧ c ≠ 92 := by
  unfold behindBackslash at escaped
  split_ifs at escaped <;> cases escaped
  all_goals exact ⟨by assumption, by decide⟩

def logCode : Code UInt8 where
  introducer := 92
  behind := behindBackslash
  bare := rfl
  apart := fun _ escaped => (forLetter_behind escaped).2 rfl
  injective := fun first second => (forLetter_behind first).1.trans (forLetter_behind second).1.symm

/-- What a `PrintStream` does with a text of ASCII characters and with a byte; the rest is left
to it. -/
structure Spelling (spell : Item → List UInt8) : Prop where
  text : ∀ s, (∀ c ∈ s.toList, c.toNat < 128) →
    spell (.text s) = s.toList.map fun c => .ofNat c.toNat
  byte : ∀ b, spell (.byte b) = [b]

/-- The calls that log bytes. -/
inductive LoggedTransfer where
  | osWriteByte (b : ℤ)
  | osWriteArray (b : List UInt8)
  | osWriteRange (b : List UInt8) (offset len : ℤ)
  | channelWrite (buffer : ByteBuffer)
  | isReadByte (b : ℤ)
  | isReadArray (readLength : ℤ) (b : List UInt8) (off : ℤ)
  | channelRead (buffer : ByteBuffer) (position : ℕ)

namespace LoggedTransfer

def print : LoggedTransfer → Writing Unit
  | osWriteByte b => LogWriter.beforeOsWriteByte b
  | osWriteArray b => LogWriter.beforeOsWriteArray (some b)
  | osWriteRange b offset len => LogWriter.beforeOsWriteRange (some b) offset len
  | channelWrite buffer => LogWriter.beforeChannelWrite buffer
  | isReadByte b => LogWriter.afterIsReadByte b
  | isReadArray readLength b off => LogWriter.afterIsReadArray readLength (some b) off
  | channelRead buffer position => LogWriter.afterChannelRead buffer position

/-- The bytes transferred; `-1` of a `read()` is none. -/
def bytes : LoggedTransfer → List UInt8
  | osWriteByte b => [(b % 256).toNat.toUInt8]
  | osWriteArray b => b
  | osWriteRange b offset len => (b.drop offset.toNat).take len.toNat
  | channelWrite buffer => buffer.pending
  | isReadByte b => if 0 ≤ b then [(b % 256).toNat.toUInt8] else []
  | isReadArray readLength b off => (b.drop off.toNat).take readLength.toNat
  | channelRead buffer position => (buffer.bytes.take buffer.position).drop position

end LoggedTransfer

/-- What is printed between the quotes. -/
def quotedText (spell : Item → List UInt8) (x : List UInt8) : List UInt8 :=
  (x.flatMap LogWriter.escaped).flatMap spell

/-- Of a call that returns, the line is a prefix, a quote, the text of the bytes and a quote. -/
def Quotes (spell : Item → List UInt8) (m : Writing Unit) (x : List UInt8) : Prop :=
  ∀ w w', w.ascii = true → m w = .ok () w' → ∃ before after,
    w'.log.flatMap spell = w.log.flatMap spell ++ before ++ 34 ::
      (quotedText spell x ++ 34 :: after)

theorem ascii_of_all {s : String} (all : (s.toList.all fun c => decide (c.toNat < 128)) = true) :
    ∀ c ∈ s.toList, c.toNat < 128 :=
  fun c member => of_decide_eq_true (List.all_eq_true.mp all c member)

section Spelt
variable {spell : Item → List UInt8} (spelling : Spelling spell)
include spelling

theorem escaped_token (b : UInt8) : (LogWriter.escaped b).flatMap spell = logCode.token b := by
  have spelt : ∀ s, (∀ c ∈ s.toList, c.toNat < 128) →
      [Item.text s].flatMap spell = s.toList.map fun c => UInt8.ofNat c.toNat := by
    intro s ascii
    rw [List.flatMap_singleton, spelling.text s ascii]
  unfold LogWriter.escaped Code.token
  simp only [logCode, behindBackslash]
  split
  · exact spelt "\\f" (ascii_of_all (by decide))
  split
  · exact spelt "\\b" (ascii_of_all (by decide))
  split
  · exact spelt "\\n" (ascii_of_all (by decide))
  split
  · exact spelt "\\r" (ascii_of_all (by decide))
  split
  · exact spelt "\\t" (ascii_of_all (by decide))
  split
  · exact spelt "\\'" (ascii_of_all (by decide))
  split
  · exact spelt "\\\"" (ascii_of_all (by decide))
  split
  · next backslash => rw [backslash]; exact spelt "\\" (ascii_of_all (by decide))
  · rw [List.flatMap_singleton, spelling.byte]

theorem quotedText_eq (x : List UInt8) : quotedText spell x = logCode.text x := by
  rw [quotedText, List.flatMap_assoc]
  simp only [escaped_token spelling]
  rfl

end Spelt
section Printing
variable {spell : Item → List UInt8} {m : Writing Unit} {x : List UInt8} {w w' : LogWriter}

/-- The computation adds the bytes to the log, as a writer in ASCII mode does. -/
def AddsBytes (m : Writing Unit) (x : List UInt8) : Prop :=
  ∀ w w', w.ascii = true → m w = .ok () w' → w'.ascii = true ∧
    w'.log = w.log ++ x.flatMap LogWriter.escaped

theorem append_eq (items : List Item) (w : LogWriter) :
    LogWriter.append items w = .ok () { w with log := w.log ++ items } := rfl

theorem adds_nothing : AddsBytes (pure ()) [] := by
  rintro w _ ascii ⟨⟩
  exact ⟨ascii, (List.append_nil _).symm⟩

theorem appendByte_adds (b : UInt8) : AddsBytes (LogWriter.appendByte b) [b] := by
  intro w w' ascii returned
  have printed : LogWriter.appendByte b w = LogWriter.append (LogWriter.escaped b) w := by
    refine get_bind.trans ?_
    rw [if_pos ascii]
  rw [printed, append_eq] at returned
  cases returned
  exact ⟨ascii, by rw [List.flatMap_singleton]⟩

theorem adds_cons {b : UInt8} (rest : AddsBytes m x) :
    AddsBytes (LogWriter.appendByte b >>= fun _ => m) (b :: x) := by
  intro w w' ascii returned
  obtain ⟨_, w₁, first, last⟩ := bind_ok returned
  obtain ⟨ascii₁, log₁⟩ := appendByte_adds b w w₁ ascii first
  obtain ⟨ascii', log'⟩ := rest w₁ w' ascii₁ last
  refine ⟨ascii', ?_⟩
  rw [log', log₁, List.append_assoc, ← List.flatMap_append, List.singleton_append]

theorem appendBytes_adds (bytes : List UInt8) : AddsBytes (LogWriter.appendBytes bytes) bytes := by
  induction bytes with
  | nil => exact adds_nothing
  | cons b bytes ih => exact adds_cons ih

theorem element_ok {b : List UInt8} {i : ℤ} {byte : UInt8}
    (returned : LogWriter.element (some b) i w = .ok byte w') :
    0 ≤ i ∧ b[i.toNat]? = some byte ∧ w' = w := by
  simp only [LogWriter.element] at returned
  split at returned
  · cases returned
  · next low =>
      cases found : b[i.toNat]? with
      | none =>
          rw [found] at returned
          cases returned
      | some byte' =>
          rw [found] at returned
          cases returned
          exact ⟨by omega, rfl, rfl⟩

theorem appendElements_adds (b : List UInt8) (off : ℤ) (n : ℕ) :
    AddsBytes (LogWriter.appendElements (some b) off n) ((b.drop off.toNat).take n) := by
  induction n generalizing off with
  | zero => exact adds_nothing
  | succ n ih =>
      intro w w' ascii returned
      obtain ⟨byte, w₁, first, rest⟩ := bind_ok returned
      obtain ⟨low, found, rfl⟩ := element_ok first
      obtain ⟨inside, rfl⟩ := List.getElem?_eq_some_iff.mp found
      have next : (off + 1).toNat = off.toNat + 1 := by omega
      have split : (b.drop off.toNat).take (n + 1) =
          b[off.toNat] :: (b.drop (off + 1).toNat).take n := by
        rw [List.drop_eq_getElem_cons inside, List.take_succ_cons, next]
      rw [split]
      exact adds_cons (ih (off + 1)) w₁ w' ascii rest

/-- The end of a line, whether or not times are logged. -/
theorem appendDuration_ok {start : Option Instant} {ts : Instant} {short long tail : List Item}
    (returned : LogWriter.appendDuration start ts short long tail w = .ok () w') :
    ∃ items, w'.log = w.log ++ items ∧ (items = short ∨ ∃ rest, items = long ++ rest) := by
  obtain ⟨_, _, got, rest⟩ := bind_ok returned
  cases got
  split at rest
  · obtain ⟨d, w₂, since, last⟩ := bind_ok rest
    have same : w₂ = w := by
      cases start with
      | none => cases since
      | some start => cases since; rfl
    rw [same] at last
    split at last
    · cases last
      exact ⟨short, rfl, .inl rfl⟩
    · cases last
      exact ⟨_, rfl, .inr ⟨[.duration d] ++ tail, List.append_assoc _ _ _⟩⟩
  · cases rest
    exact ⟨short, rfl, .inl rfl⟩

variable (spelling : Spelling spell)
include spelling

theorem opening_spelt (name : String) (init : List Char) (ascii : ∀ c ∈ name.toList, c.toNat < 128)
    (quoted : name.toList = init ++ ['"']) : ∃ before, spell (.text name) = before ++ [34] := by
  refine ⟨init.map fun c => .ofNat c.toNat, ?_⟩
  rw [spelling.text name ascii, quoted, List.map_append]
  rfl

theorem closing_spelt (quote : String) (rest : List Char)
    (ascii : ∀ c ∈ quote.toList, c.toNat < 128) (quoted : quote.toList = '"' :: rest) :
    ∃ after, spell (.text quote) = 34 :: after := by
  refine ⟨rest.map fun c => .ofNat c.toNat, ?_⟩
  rw [spelling.text quote ascii, quoted, List.map_cons]
  rfl

omit spelling in
/-- A line put together from its beginning, the bytes and its end. -/
theorem quotes_line {log log₁ log₂ log' before after : List Item} {name quote : Item}
    {opening closing : List UInt8} (opens : spell name = opening ++ [34])
    (closes : spell quote = 34 :: closing) (first : log₁ = log ++ (before ++ [name]))
    (bytes : log₂ = log₁ ++ x.flatMap LogWriter.escaped) (last : log' = log₂ ++ quote :: after) :
    ∃ before after,
    log'.flatMap spell = log.flatMap spell ++ before ++ 34 ::
      (quotedText spell x ++ 34 :: after) := by
  refine ⟨before.flatMap spell ++ opening, closing ++ after.flatMap spell, ?_⟩
  rw [last, bytes, first]
  simp only [List.flatMap_append, List.flatMap_cons, opens, closes, quotedText, List.append_assoc,
    List.cons_append, List.nil_append]

/-- The beginning of a line, before the text that opens the quotes. -/
def lineStart (w : LogWriter) (source action : String) : List Item :=
  w.formatTs (w.instants w.ticks) ++ [.text source, .text action]

theorem write_quotes {w w₁ w₂ w' : LogWriter} (source : String)
    (first : w₁.log = w.log ++ (lineStart w source LogWriter.ACION_CALL ++ [.text " write:\t\""]))
    (bytes : w₂.log = w₁.log ++ x.flatMap LogWriter.escaped)
    (last : w'.log = w₂.log ++ [.text "\"", .newline]) :
    ∃ before after, w'.log.flatMap spell =
      w.log.flatMap spell ++ before ++ 34 :: (quotedText spell x ++ 34 :: after) := by
  obtain ⟨opening, opens⟩ := opening_spelt spelling " write:\t\"" " write:\t".toList
    (ascii_of_all (by decide)) (by decide)
  obtain ⟨closing, closes⟩ := closing_spelt spelling "\"" [] (ascii_of_all (by decide)) (by decide)
  exact quotes_line opens closes first bytes last

theorem read_quotes {w w₁ w₂ w' : LogWriter} {items : List Item} (source : String)
    (first : w₁.log = w.log ++ (lineStart w source LogWriter.ACION_RETURN ++ [.text " read:\t\""]))
    (bytes : w₂.log = w₁.log ++ x.flatMap LogWriter.escaped)
    (last : w'.log = w₂.log ++ (items ++ [.newline]))
    (ends : items = [.text "\""] ∨ ∃ rest, items = [.text "\"\tduration: "] ++ rest) :
    ∃ before after, w'.log.flatMap spell =
      w.log.flatMap spell ++ before ++ 34 :: (quotedText spell x ++ 34 :: after) := by
  obtain ⟨opening, opens⟩ := opening_spelt spelling " read:\t\"" " read:\t".toList
    (ascii_of_all (by decide)) (by decide)
  rcases ends with rfl | ⟨rest, rfl⟩
  · obtain ⟨closing, closes⟩ :=
      closing_spelt spelling "\"" [] (ascii_of_all (by decide)) (by decide)
    exact quotes_line opens closes first bytes last
  · obtain ⟨closing, closes⟩ := closing_spelt spelling "\"\tduration: " "\tduration: ".toList
      (ascii_of_all (by decide)) (by decide)
    exact quotes_line opens closes first bytes last

theorem beforeOsWrite_quotes (adds : AddsBytes m x) :
    Quotes spell (LogWriter.beforeOsWrite m) x := by
  intro w w' ascii returned
  obtain ⟨_, w₂, bytes, last⟩ := bind_ok (m := m) (f := fun _ => LogWriter.append [.text "\"", .newline])
    (s := { w with ticks := w.ticks + 1
                   log := w.log ++ (w.formatTs (w.instants w.ticks) ++
                     [.text "OS", .text LogWriter.ACION_CALL, .text " write:\t\""])
                   osWriteStartTS := some (w.instants w.ticks) }) returned
  cases last
  exact write_quotes spelling "OS" (by simp [lineStart]) (adds _ w₂ (by exact ascii) bytes).2 rfl

theorem beforeChannelWrite_quotes (buffer : ByteBuffer) :
    Quotes spell (LogWriter.beforeChannelWrite buffer) buffer.pending := by
  intro w w' ascii returned
  obtain ⟨_, w₂, bytes, last⟩ := bind_ok (m := LogWriter.appendBytes buffer.pending)
    (f := fun _ => LogWriter.append [.text "\"", .newline])
    (s := { w with ticks := w.ticks + 1
                   log := w.log ++ (w.formatTs (w.instants w.ticks) ++
                     [.text "CH", .text LogWriter.ACION_CALL, .text " write:\t\""])
                   channelWriteStartTS := some (w.instants w.ticks) }) returned
  cases last
  exact write_quotes spelling "CH" (by simp [lineStart])
    (appendBytes_adds buffer.pending _ w₂ (by exact ascii) bytes).2 rfl

/-- The reads print their bytes and then the duration. -/
theorem read_line {bytes : Writing Unit} (adds : AddsBytes bytes x) (source : String)
    (start : LogWriter → Option Instant) {ts : Instant} (tail : List Item) (w₁ : LogWriter)
    (ascii : w₁.ascii = true)
    (first : w₁.log = w.log ++ (lineStart w source LogWriter.ACION_RETURN ++ [.text " read:\t\""]))
    (returned : (do
      bytes
      let w ← get
      LogWriter.appendDuration (start w) ts [.text "\""] [.text "\"\tduration: "] tail
      LogWriter.append [.newline] : Writing Unit) w₁ = .ok () w') :
    ∃ before after, w'.log.flatMap spell =
      w.log.flatMap spell ++ before ++ 34 :: (quotedText spell x ++ 34 :: after) := by
  obtain ⟨_, w₂, added, rest⟩ := bind_ok returned
  obtain ⟨_, w₃, duration, last⟩ := bind_ok (m := LogWriter.appendDuration (start w₂) ts _ _ _) rest
  obtain ⟨items, log₃, ends⟩ := appendDuration_ok duration
  refine read_quotes spelling source first (adds _ w₂ ascii added).2 ?_ ends
  cases last
  change w₃.log ++ [.newline] = _
  rw [log₃, List.append_assoc]

theorem afterIsRead_quotes (adds : AddsBytes m x) : Quotes spell (LogWriter.afterIsRead m) x := by
  intro w w' ascii returned
  exact read_line spelling adds "IS" LogWriter.isReadStartTS [.newline]
    { w with ticks := w.ticks + 1
             log := w.log ++ (w.formatTs (w.instants w.ticks) ++
               [.text "IS", .text LogWriter.ACION_RETURN,
               .text " read:\t\""]) } ascii (by simp [lineStart]) returned

theorem afterChannelRead_quotes (buffer : ByteBuffer) (position : ℕ) :
    Quotes spell (LogWriter.afterChannelRead buffer position)
      ((buffer.bytes.take buffer.position).drop position) := by
  intro w w' ascii returned
  exact read_line spelling (appendBytes_adds _) "CH" LogWriter.channelReadStartTS []
    { w with ticks := w.ticks + 1
             log := w.log ++ (w.formatTs (w.instants w.ticks) ++
               [.text "CH", .text LogWriter.ACION_RETURN,
               .text " read:\t\""]) } ascii (by simp [lineStart]) returned

theorem print_quotes (t : LoggedTransfer) : Quotes spell t.print t.bytes := by
  cases t with
  | osWriteByte b => exact beforeOsWrite_quotes spelling (appendByte_adds _)
  | osWriteArray b => exact beforeOsWrite_quotes spelling (appendBytes_adds b)
  | osWriteRange b offset len =>
      exact beforeOsWrite_quotes spelling (appendElements_adds b offset len.toNat)
  | channelWrite buffer => exact beforeChannelWrite_quotes spelling buffer
  | isReadByte b =>
      refine afterIsRead_quotes spelling ?_
      simp only [LoggedTransfer.bytes]
      split
      · exact appendByte_adds _
      · exact adds_nothing
  | isReadArray readLength b off =>
      exact afterIsRead_quotes spelling (appendElements_adds b off readLength.toNat)
  | channelRead buffer position => exact afterChannelRead_quotes spelling buffer position

end Printing

/-- Where the first quote stands that no backslash escapes. -/
def firstQuote (text : List UInt8) : Option ℕ := logCode.firstUnescaped 34 false text

/-- The text between the quotes is that of no other bytes, and ends with the first quote that is
not escaped. -/
structure Unambiguous (spell : Item → List UInt8) (x : List UInt8) : Prop where
  determined : ∀ y, quotedText spell y = quotedText spell x → y = x
  closed : ∀ after, firstQuote (quotedText spell x ++ 34 :: after) =
    some (quotedText spell x).length

/-- `f`, `b`, `n`, `r` and `t`. -/
def letters : List UInt8 := [102, 98, 110, 114, 116]

/-- The bytes written as these letters behind a backslash. -/
def controls : List UInt8 := [12, 8, 10, 13, 9]

/-- None of the control bytes, and no backslash directly before one of their letters. -/
def NoLetterEscapes : List UInt8 → Prop
  | [] => True
  | b :: x => b ∉ controls ∧ (b = 92 → ∀ c ∈ x.head?, c ∉ letters) ∧ NoLetterEscapes x

/-- Directly before each `"`, and before the end, is an even number of backslashes; `n` of them
are before `x`. -/
def EvenBackslashes : ℕ → List UInt8 → Prop
  | n, [] => n % 2 = 0
  | n, b :: x => (b = 34 → n % 2 = 0) ∧ EvenBackslashes (if b = 92 then n + 1 else 0) x

def Legible (x : List UInt8) : Prop := NoLetterEscapes x ∧ EvenBackslashes 0 x

section Bytes

theorem doubtful_iff (c : UInt8) : logCode.Doubtful c ↔ c ∈ letters := by
  constructor
  · rintro ⟨plain, a, escaped⟩
    change behindBackslash c = none at plain
    change behindBackslash a = some c at escaped
    unfold behindBackslash at escaped
    split_ifs at escaped <;> cases escaped
    · decide
    · decide
    · decide
    · decide
    · decide
    · cases plain
    · cases plain
  · intro member
    simp only [letters, List.mem_cons, List.not_mem_nil, or_false] at member
    rcases member with rfl | rfl | rfl | rfl | rfl
    · exact ⟨rfl, 12, rfl⟩
    · exact ⟨rfl, 8, rfl⟩
    · exact ⟨rfl, 10, rfl⟩
    · exact ⟨rfl, 13, rfl⟩
    · exact ⟨rfl, 9, rfl⟩

theorem control_iff (b : UInt8) : (∀ c, logCode.behind b = some c → ¬logCode.Doubtful c) ↔
    b ∉ controls := by
  simp only [doubtful_iff]
  constructor
  · intro fine member
    simp only [controls, List.mem_cons, List.not_mem_nil, or_false] at member
    rcases member with rfl | rfl | rfl | rfl | rfl
    · exact fine 102 rfl (by decide)
    · exact fine 98 rfl (by decide)
    · exact fine 110 rfl (by decide)
    · exact fine 114 rfl (by decide)
    · exact fine 116 rfl (by decide)
  · intro other c escaped letter
    have byte := (forLetter_behind escaped).1
    simp only [letters, List.mem_cons, List.not_mem_nil, or_false] at letter
    apply other
    rcases letter with rfl | rfl | rfl | rfl | rfl
    · rw [byte]; decide
    · rw [byte]; decide
    · rw [byte]; decide
    · rw [byte]; decide
    · rw [byte]; decide

theorem clear_iff (x : List UInt8) : logCode.Clear x ↔ NoLetterEscapes x := by
  induction x with
  | nil => exact Iff.rfl
  | cons b x ih =>
      refine and_congr (control_iff b) (and_congr ?_ ih)
      simp only [doubtful_iff]
      exact Iff.rfl

theorem paired_iff (n : ℕ) (x : List UInt8) : logCode.Paired 34 (decide (n % 2 = 1)) x ↔
    EvenBackslashes n x := by
  have parity : ∀ n : ℕ, decide (n % 2 = 1) = false ↔ n % 2 = 0 := by
    intro n
    rw [decide_eq_false_iff_not]
    omega
  induction x generalizing n with
  | nil => exact parity n
  | cons b x ih =>
      have next : (decide (b = logCode.introducer) && !decide (n % 2 = 1)) =
          decide ((if b = 92 then n + 1 else 0) % 2 = 1) := by
        change (decide (b = 92) && _) = _
        by_cases backslash : b = 92
        · rw [if_pos backslash, decide_eq_true backslash, Bool.true_and,
            ← decide_not, decide_eq_decide]
          omega
        · rw [if_neg backslash, decide_eq_false backslash]
          rfl
      rw [Code.Paired, next]
      exact and_congr (imp_congr_right fun _ => parity n) (ih _)

end Bytes

/-- Each call prints the text of its bytes between quotes; that text is unambiguous exactly if the
bytes are legible. -/
theorem asciiLog_iff (spell : Item → List UInt8) (spelling : Spelling spell) :
    (∀ t : LoggedTransfer, Quotes spell t.print t.bytes) ∧ ∀ x, Unambiguous spell x ↔
      Legible x := by
  refine ⟨print_quotes spelling, fun x => ?_⟩
  have closes : ∀ after, firstQuote (logCode.text x ++ 34 :: after) = some (logCode.text x).length ↔
      EvenBackslashes 0 x := fun after =>
    (Code.firstUnescaped_iff rfl false x after).trans (paired_iff 0 x)
  have reads : (∀ y, logCode.text y = logCode.text x → y = x) ↔ NoLetterEscapes x :=
    Code.determined_iff.trans (clear_iff x)
  constructor
  · intro unambiguous
    have determined := unambiguous.determined
    have closed := unambiguous.closed []
    simp only [quotedText_eq spelling] at determined closed
    exact ⟨reads.mp determined, (closes []).mp closed⟩
  · rintro ⟨clear, even⟩
    constructor
    · simp only [quotedText_eq spelling]
      exact reads.mpr clear
    · simp only [quotedText_eq spelling]
      exact fun after => (closes after).mpr even

/-- A stream that spells texts and bytes, and leaves the rest out. -/
def plainly : Item → List UInt8
  | .text s => s.toList.map fun c => .ofNat c.toNat
  | .byte b => [b]
  | _ => []

theorem asciiLog_iff_plainly : Unambiguous plainly [65, 92, 92, 34] := by
  have backslash : ∀ c ∈ some (92 : UInt8), c ∉ letters := by
    rintro c ⟨⟩
    decide
  have quote : ∀ c ∈ some (34 : UInt8), c ∉ letters := by
    rintro c ⟨⟩
    decide
  exact ((asciiLog_iff plainly ⟨fun _ _ => rfl, fun _ => rfl⟩).2 _).mpr
    ⟨⟨by decide, by decide, by decide, fun _ => backslash, by decide, fun _ => quote, by decide,
      by decide, trivial⟩,
      by decide, by decide, by decide, by decide, rfl⟩

/-- A line feed is logged as a backslash and an `n` are. -/
theorem asciiLog_confuses : ¬∀ spell, Spelling spell →
    (∀ t : LoggedTransfer, Quotes spell t.print t.bytes) ∧ ∀ x, Unambiguous spell x := by
  intro clear
  have unambiguous := (clear plainly ⟨fun _ _ => rfl, fun _ => rfl⟩).2 [10]
  cases unambiguous.determined [92, 110] (by decide)

end Spsw.Logging
