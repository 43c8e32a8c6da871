import Spsw.Jni.SerialPortSocketFactory
import Spsw.Loops.Collecting

/-!
# What the port listings find

An attempt on a port finds it free, busy, or open but not to be closed; any other
exception ends the listing. Each of the four loops then finds a list of names.
-/
namespace Spsw.Jni.SerialPortSocketFactoryImpl
open PortnamesComparator Patterns Loops

/-- How `tryOpen` leaves the statement, without an exception. -/
inductive Attempt where
  | free
  | busy
  | unclosed
  deriving DecidableEq

def Attempt.ends {σ : Type} (body handler : σ → σ) (x : σ) : Attempt → σ
  | .free => body x
  | .busy => handler x
  | .unclosed => handler (body x)

namespace System
variable (s : System)

def attempt (portName : JavaString) : Option Attempt :=
  match s.openPort portName with
  | .ok sp =>
      match sp.close with
      | .ok () => some .free
      | .error ex => if ex.isIOException = true then some .unclosed else none
  | .error ex => if ex.isIOException = true then some .busy else none

def finds (name : List UInt16) : Bool :=
  match getPortnamesRegExp s.os with
  | some pattern => find pattern name
  | none => false

/-- The filter of `listFiles` goes on to the port. -/
def takes (entry : Entry (parentOf s.os s.drive)) : Bool :=
  s.finds entry.name && (!entry.isDirectory && !entry.isFile)

def devices : List JavaString := (s.listing.filter s.takes).map Entry.getAbsolutePath

def registered : List JavaString := s.registry.filter fun portName => s.finds portName.value

/-- The ports that are shown to the consumer, in this order. -/
def ports : List JavaString := (if s.os = .WINDOWS then s.registered else []) ++ s.devices

def isBusy (portName : JavaString) : Bool := decide (s.attempt portName = some .busy)

/-- What `getUnixBasedPortNames` adds for a port when it hides busy ones. -/
def listed (portToInclude portName : JavaString) : List JavaString :=
  let included := if portToInclude.value ≠ [] ∧
    portToInclude.value = portName.value then [portName] else []
  match s.attempt portName with
  | some .free => [portName]
  | some .busy => included
  | some .unclosed => portName :: included
  | none => []

/-- What `getWindowsPortNames` keeps of a value when it hides busy ports. -/
def kept (portToInclude portName : JavaString) : List JavaString :=
  if s.finds portName.value = true ∧ s.attempt portName ≠ some .free ∧
    portName.value ≠ portToInclude.value then []
  else [portName]

section Attempts
variable {s} {σ : Type} {portName : JavaString} {body handler : σ → σ} {x y : σ}

/-- The statement ends as the attempt tells, or with an exception that is not caught. -/
theorem tryOpen_cases (s : System) (portName : JavaString) (body handler : σ → σ) (x : σ) :
    (∃ attempt, s.attempt portName = some attempt ∧
      s.tryOpen portName body handler x = .ok (attempt.ends body handler x)) ∨
    s.attempt portName = none ∧ ∃ ex, s.tryOpen portName body handler x = .error ex := by
  unfold System.attempt tryOpen
  cases s.openPort portName with
  | error ex =>
      by_cases io : ex.isIOException = true
      · exact .inl ⟨.busy, by simp [io, Attempt.ends]⟩
      · exact .inr (by simp [io])
  | ok sp =>
      cases closed : sp.close with
      | ok _ => exact .inl ⟨.free, by simp [closed, Attempt.ends]⟩
      | error ex =>
          by_cases io : ex.isIOException = true
          · exact .inl ⟨.unclosed, by simp [closed, io, Attempt.ends]⟩
          · exact .inr (by simp [closed, io])

theorem tryOpen_ends {attempt : Attempt} (attempted : s.attempt portName = some attempt) :
    s.tryOpen portName body handler x = .ok (attempt.ends body handler x) := by
  rcases tryOpen_cases s portName body handler x with ⟨attempt', same, ends⟩ | ⟨none, -⟩
  · rw [attempted] at same
    cases same
    exact ends
  · rw [attempted] at none
    cases none

theorem attempted_of_ends (ends : s.tryOpen portName body handler x = .ok y) :
    s.attempt portName ≠ none := by
  rcases tryOpen_cases s portName body handler x with ⟨attempt, same, -⟩ | ⟨-, ex, thrown⟩
  · simp [same]
  · rw [ends] at thrown
    cases thrown

end Attempts

section Passes
variable {s} {pattern : Pattern UInt16} {p n : JavaString} {acc : List JavaString}
  {visits : List (JavaString × Bool)} {entry : Entry (parentOf s.os s.drive)}

theorem finds_eq (known : getPortnamesRegExp s.os = some pattern) (name : List UInt16) :
    s.finds name = find pattern name := by
  rw [finds, known]

theorem windowsPass_all (pattern : Pattern UInt16) :
    s.windowsPass pattern p false acc n = .ok (acc ++ [n]) := by
  simp [windowsPass, pure, Except.pure, bind, Except.bind]

theorem windowsPass_hides (known : getPortnamesRegExp s.os = some pattern)
    (attempted : s.finds n.value = true → s.attempt n ≠ none) :
    s.windowsPass pattern p true acc n = .ok (acc ++ s.kept p n) := by
  rw [finds_eq known] at attempted
  unfold windowsPass
  by_cases found : find pattern n.value = true
  · obtain ⟨attempt, attempted⟩ := Option.ne_none_iff_exists'.mp (attempted found)
    rw [if_pos ⟨found, rfl⟩, tryOpen_ends attempted]
    by_cases included : n.value = p.value <;> cases attempt <;>
      simp [Attempt.ends, kept, finds_eq known, found, attempted, included, pure,
        Except.pure, bind, Except.bind]
  · rw [if_neg fun both => found both.1]
    simp [kept, finds_eq known, found, pure, Except.pure, bind, Except.bind]

theorem unixPass_all (known : getPortnamesRegExp s.os = some pattern) :
    s.unixPass pattern p false acc entry =
      .ok (acc ++ if s.takes entry = true then [entry.getAbsolutePath] else []) := by
  simp only [unixPass, takes, finds_eq known]
  by_cases found : find pattern entry.name = true <;>
    by_cases device : (!entry.isDirectory && !entry.isFile) = true <;>
      simp [found, device, pure, Except.pure]

theorem unixPass_hides (known : getPortnamesRegExp s.os = some pattern)
    (attempted : s.takes entry = true → s.attempt entry.getAbsolutePath ≠ none) :
    s.unixPass pattern p true acc entry =
      .ok (acc ++ if s.takes entry = true then s.listed p entry.getAbsolutePath else []) := by
  rw [takes, finds_eq known] at attempted
  simp only [unixPass, takes, finds_eq known]
  by_cases found : find pattern entry.name = true
  · by_cases device : (!entry.isDirectory && !entry.isFile) = true
    · obtain ⟨attempt, attempted⟩ :=
        Option.ne_none_iff_exists'.mp (attempted (by rw [found, device]; rfl))
      rw [if_pos found, if_pos device, if_pos trivial, tryOpen_ends attempted, found, device]
      cases attempt <;> simp only [Attempt.ends, listed, attempted, Bool.and_self, if_true]
        <;> split <;> simp
    · simp [found, device, pure, Except.pure]
  · simp [found, pure, Except.pure]

theorem visit_eq (attempted : s.attempt n ≠ none) :
    s.visit visits n = .ok (visits ++ [(n, s.isBusy n)]) := by
  obtain ⟨attempt, attempted⟩ := Option.ne_none_iff_exists'.mp attempted
  unfold visit
  rw [tryOpen_ends attempted, isBusy, attempted]
  cases attempt <;> rfl

theorem attempted_of_visit {after : List (JavaString × Bool)}
    (ends : s.visit visits n = .ok after) :
    s.attempt n ≠ none := by
  unfold visit at ends
  cases tried : s.tryOpen n (fun _ => false) id true with
  | error e =>
      rw [tried] at ends
      cases ends
  | ok busy => exact attempted_of_ends tried

theorem windowsVisit_eq (known : getPortnamesRegExp s.os = some pattern) :
    s.windowsVisit pattern visits n = if s.finds n.value = true then s.visit visits n
      else .ok visits := by
  rw [finds_eq known]
  rfl

theorem unixVisit_eq (known : getPortnamesRegExp s.os = some pattern) :
    s.unixVisit pattern visits entry =
      if s.takes entry = true then s.visit visits entry.getAbsolutePath else .ok visits := by
  simp only [unixVisit, takes, finds_eq known]
  by_cases found : find pattern entry.name = true
  · rw [if_pos found, found, Bool.true_and]
    rfl
  · rw [if_neg found, if_neg (by simp [found])]
    rfl

end Passes

/-- The `switch` statements name the system. -/
def Known : Prop := ∀ name, s.os ≠ .other name

/-- What the consumer is called with for a port. -/
def shown (portName : JavaString) : List (JavaString × Bool) := [(portName, s.isBusy portName)]

section Listings
variable {s} {p : JavaString} {isDigit : UInt16 → Bool} {pattern : Pattern UInt16}

theorem exists_pattern (known : s.Known) :
    ∃ path pattern, getPortnamesPath s.os = some path ∧ getPortnamesRegExp s.os = some pattern := by
  cases named : s.os with
  | other name => exact absurd named (known name)
  | _ => exact ⟨_, _, rfl, rfl⟩

theorem device_taken {entry : Entry (parentOf s.os s.drive)} (member : entry ∈ s.listing)
    (taken : s.takes entry = true) : entry.getAbsolutePath ∈ s.devices :=
  List.mem_map_of_mem (List.mem_filter.mpr ⟨member, taken⟩)

theorem getWindowsPortNames_all (known : s.Known) :
    s.getWindowsPortNames isDigit p false = .ok (sort isDigit s.registry) := by
  obtain ⟨-, pattern, -, pattern_eq⟩ := exists_pattern known
  have loop : s.registry.foldlM (s.windowsPass pattern p false) [] =
      .ok ([] ++ s.registry.flatMap fun n => [n]) := by
    apply foldlM_collects
    exact fun _ _ _ => windowsPass_all pattern
  simp only [getWindowsPortNames, pattern_eq]
  rw [loop, List.flatMap_singleton']
  rfl

theorem getWindowsPortNames_hides (known : s.Known)
    (attempted : ∀ n ∈ s.registered, s.attempt n ≠ none) :
    s.getWindowsPortNames isDigit p true = .ok (sort isDigit (s.registry.flatMap (s.kept p))) := by
  obtain ⟨-, pattern, -, pattern_eq⟩ := exists_pattern known
  have loop : s.registry.foldlM (s.windowsPass pattern p true) [] =
      .ok ([] ++ s.registry.flatMap (s.kept p)) := by
    apply foldlM_collects
    intro n member acc
    exact windowsPass_hides pattern_eq fun found =>
      attempted n (List.mem_filter.mpr ⟨member, found⟩)
  simp only [getWindowsPortNames, pattern_eq]
  rw [loop]
  rfl

theorem getUnixBasedPortNames_all (known : s.Known) :
    s.getUnixBasedPortNames isDigit p false = .ok (sort isDigit s.devices) := by
  obtain ⟨path, pattern, path_eq, pattern_eq⟩ := exists_pattern known
  have loop : s.listing.foldlM (s.unixPass pattern p false) [] =
      .ok ([] ++ s.listing.flatMap fun entry =>
      if s.takes entry = true then [entry.getAbsolutePath] else []) := by
    apply foldlM_collects
    exact fun _ _ _ => unixPass_all pattern_eq
  simp only [getUnixBasedPortNames, path_eq, pattern_eq]
  rw [loop, flatMap_skipping s.takes Entry.getAbsolutePath fun n => [n], List.flatMap_singleton']
  rfl

theorem getUnixBasedPortNames_hides (known : s.Known)
    (attempted : ∀ n ∈ s.devices, s.attempt n ≠ none) :
    s.getUnixBasedPortNames isDigit p true =
      .ok (sort isDigit (s.devices.flatMap (s.listed p))) := by
  obtain ⟨path, pattern, path_eq, pattern_eq⟩ := exists_pattern known
  have loop : s.listing.foldlM (s.unixPass pattern p true) [] =
      .ok ([] ++ s.listing.flatMap fun entry =>
      if s.takes entry = true then s.listed p entry.getAbsolutePath else []) := by
    apply foldlM_collects
    intro entry member acc
    exact unixPass_hides pattern_eq fun taken => attempted _ (device_taken member taken)
  simp only [getUnixBasedPortNames, path_eq, pattern_eq]
  rw [loop, flatMap_skipping s.takes Entry.getAbsolutePath]
  rfl

theorem registry_visited (pattern_eq : getPortnamesRegExp s.os = some pattern)
    (attempted : ∀ n ∈ s.registered, s.attempt n ≠ none) :
    s.registry.foldlM (s.windowsVisit pattern) [] = .ok (s.registered.flatMap s.shown) := by
  have loop : s.registry.foldlM (s.windowsVisit pattern) [] = .ok ([] ++ s.registry.flatMap fun n =>
      if s.finds n.value = true then s.shown n else []) := by
    apply foldlM_collects
    intro n member acc
    rw [windowsVisit_eq pattern_eq]
    split
    · next found => exact visit_eq (attempted n (List.mem_filter.mpr ⟨member, found⟩))
    · rw [List.append_nil]
  rw [loop, flatMap_skipping (fun n : JavaString => s.finds n.value) (fun n => n), List.map_id']
  rfl

theorem listing_visited (pattern_eq : getPortnamesRegExp s.os = some pattern)
    (attempted : ∀ n ∈ s.devices, s.attempt n ≠ none) (visits : List (JavaString × Bool)) :
    s.listing.foldlM (s.unixVisit pattern) visits = .ok (visits ++ s.devices.flatMap s.shown) := by
  rw [devices, ← flatMap_skipping]
  apply foldlM_collects
  intro entry member acc
  rw [unixVisit_eq pattern_eq]
  split
  · next taken => exact visit_eq (attempted _ (device_taken member taken))
  · rw [List.append_nil]

theorem getPortNamesConsumer_eq (known : s.Known) (attempted : ∀ n ∈ s.ports, s.attempt n ≠ none) :
    s.getPortNamesConsumer = .ok (s.ports.map fun n => (n, s.isBusy n)) := by
  obtain ⟨path, pattern, path_eq, pattern_eq⟩ := exists_pattern known
  have devices := listing_visited pattern_eq fun n member =>
    attempted n (List.mem_append_right _ member)
  have together : s.ports.map (fun n => (n, s.isBusy n)) = s.ports.flatMap s.shown :=
    List.map_eq_flatMap
  rw [together]
  simp only [getPortNamesConsumer, path_eq, pattern_eq]
  by_cases windows : s.os = .WINDOWS
  · simp only [ports, if_pos windows] at attempted ⊢
    rw [registry_visited pattern_eq fun n member => attempted n (List.mem_append_left _ member),
      List.flatMap_append]
    exact devices _
  · simp only [ports, if_neg windows, List.nil_append]
    exact devices []

theorem attempted_of_consumer {visits : List (JavaString × Bool)}
    (ends : s.getPortNamesConsumer = .ok visits) :
    s.Known ∧ ∀ n ∈ s.ports, s.attempt n ≠ none := by
  have known : s.Known := by
    intro name other
    have path : getPortnamesPath s.os = none := by rw [other, getPortnamesPath]
    simp only [getPortNamesConsumer, path] at ends
    cases ends
  obtain ⟨path, pattern, path_eq, pattern_eq⟩ := exists_pattern known
  have listed : ∀ {before}, s.listing.foldlM (s.unixVisit pattern) before = .ok visits →
      ∀ n ∈ s.devices, s.attempt n ≠ none := by
    intro before ends n member
    obtain ⟨entry, taken, rfl⟩ := List.mem_map.mp member
    obtain ⟨member, taken⟩ := List.mem_filter.mp taken
    obtain ⟨_, after, ended⟩ := foldlM_passes ends entry member
    rw [unixVisit_eq pattern_eq, if_pos taken] at ended
    exact attempted_of_visit ended
  simp only [getPortNamesConsumer, path_eq, pattern_eq] at ends
  refine ⟨known, ?_⟩
  by_cases windows : s.os = .WINDOWS
  · rw [if_pos windows] at ends
    rw [ports, if_pos windows]
    cases walked : s.registry.foldlM (s.windowsVisit pattern) [] with
    | error e =>
        rw [walked] at ends
        cases ends
    | ok before =>
        rw [walked] at ends
        intro n member
        rcases List.mem_append.mp member with member | member
        · obtain ⟨member, found⟩ := List.mem_filter.mp member
          obtain ⟨_, after, ended⟩ := foldlM_passes walked n member
          rw [windowsVisit_eq pattern_eq, if_pos found] at ended
          exact attempted_of_visit ended
        · exact listed ends n member
  · rw [if_neg windows] at ends
    rw [ports, if_neg windows]
    exact fun n member => listed ends n member

end Listings
end System
end Spsw.Jni.SerialPortSocketFactoryImpl
