import Mathlib.Data.List.Nodup
import Spsw.Jni.PortListings

/-!
# When the port listings agree

The listings agree with what the consumer is shown as long as an attempt leaves each
port free or busy; on Windows, all values in the registry have to be names of ports
besides, each there once, and the empty device path must not add any.
-/
namespace Spsw.Jni.SerialPortSocketFactoryImpl
open PortnamesComparator Patterns Loops

/-- The listing ends with just these names, as `PortnamesComparator` orders them. -/
def Lists (isDigit : UInt16 → Bool) (listing : Except JavaException (List JavaString))
    (names : List JavaString) : Prop :=
  ∃ result, listing = .ok result ∧ result.Perm names ∧ Ordered isDigit result

/-- The listings agree: without hiding, they list the names the consumer is shown, each of them
once; hiding the busy ports, those it is shown as not busy; and with a port to include, this too. -/
def Agree (isDigit : UInt16 → Bool) (s : System) : Prop :=
  ∃ visits, s.getPortNamesConsumer = .ok visits ∧ (visits.map Prod.fst).Nodup ∧
    Lists isDigit (s.getPortNames isDigit false) (visits.map Prod.fst) ∧
    Lists isDigit (s.getPortNames isDigit true) ((visits.filter fun v => !v.2).map Prod.fst) ∧
    ∀ p, p.value ≠ [] → Lists isDigit (s.getPortNamesWith isDigit (some p) true)
      ((visits.filter fun v => !v.2 || decide (v.1.value = p.value)).map Prod.fst)

structure Regular (s : System) : Prop where
  known : s.Known
  attempts : ∀ n ∈ s.ports, s.attempt n = some .free ∨ s.attempt n = some .busy
  registry : s.os = .WINDOWS → s.registry.Nodup ∧ (∀ n ∈ s.registry, s.finds n.value = true) ∧
    s.devices = []

namespace System
variable (s : System)

/-- What is listed if busy ports are not hidden. -/
def all : List JavaString := if s.os = .WINDOWS then s.registry else s.devices

/-- What is listed if busy ports are hidden. -/
def notHidden (portToInclude : JavaString) : List JavaString :=
  if s.os = .WINDOWS then s.registry.flatMap (s.kept portToInclude)
  else s.devices.flatMap (s.listed portToInclude)

/-- The port is not hidden: it is not busy, or is to be included. -/
def shows (portToInclude portName : JavaString) : Bool :=
  !s.isBusy portName || decide (portToInclude.value ≠ [] ∧ portName.value = portToInclude.value)

end System

section Names
variable {s : System} {n : JavaString}

theorem found_nonempty (windows : s.os = .WINDOWS) (found : s.finds n.value = true) :
    n.value ≠ [] := by
  intro none
  have nowhere : find DEFAULT_WINDOWS_PORTNAME_PATTERN [] = false := by decide
  simp [System.finds, windows, getPortnamesRegExp, none, nowhere] at found

theorem parentOf_nonempty (known : s.Known) (unix : s.os ≠ .WINDOWS) :
    parentOf s.os s.drive ≠ [] := by
  cases named : s.os with
  | other name => exact absurd named (known name)
  | WINDOWS => exact absurd named unix
  | _ => exact List.cons_ne_nil _ _

theorem device_nonempty (known : s.Known) (unix : s.os ≠ .WINDOWS) (member : n ∈ s.devices) :
    n.value ≠ [] := by
  obtain ⟨entry, -, rfl⟩ := List.mem_map.mp member
  exact List.append_ne_nil_of_left_ne_nil (parentOf_nonempty known unix) _

/-- The path in front of a name does not hide it from the pattern. -/
theorem device_found (member : n ∈ s.devices) : s.finds n.value = true := by
  obtain ⟨entry, taken, rfl⟩ := List.mem_map.mp member
  have taken := (List.mem_filter.mp taken).2
  rw [System.takes, Bool.and_eq_true] at taken
  have found := taken.1
  unfold System.finds at found ⊢
  split at found
  · exact find_append found _
  · cases found

theorem devices_nodup : s.devices.Nodup := by
  have names : (s.devices.map fun n => n.value.drop (parentOf s.os s.drive).length) =
      (s.listing.filter s.takes).map Entry.name := by
    rw [System.devices, List.map_map]
    apply List.map_congr_left
    intro entry _
    exact List.drop_left
  apply List.Nodup.of_map
  rw [names]
  exact s.distinct.sublist (List.filter_sublist.map _)

end Names

section Listings
variable {s : System} {isDigit : UInt16 → Bool} {p : JavaString}

theorem lists_sort_iff (isLow : ∀ z, isDigit z = true → zero ≤ z)
    {names visited : List JavaString} :
    Lists isDigit (.ok (sort isDigit names)) visited ↔ names.Perm visited := by
  constructor
  · rintro ⟨result, ended, perm, -⟩
    cases ended
    exact (sort_perm isDigit names).symm.trans perm
  · exact fun perm => ⟨_, rfl, (sort_perm isDigit names).trans perm, sort_ordered isLow names⟩

theorem getPortNames_all (known : s.Known) :
    s.getPortNames isDigit false = .ok (sort isDigit s.all) := by
  unfold System.getPortNames System.all
  split
  · exact System.getWindowsPortNames_all known
  · exact System.getUnixBasedPortNames_all known

/-- Both of the listings that hide busy ports. -/
theorem hides (known : s.Known) (attempted : ∀ n ∈ s.ports, s.attempt n ≠ none) :
    (if s.os = .WINDOWS then s.getWindowsPortNames isDigit p true
    else s.getUnixBasedPortNames isDigit p true) =
      .ok (sort isDigit (s.notHidden p)) := by
  unfold System.ports at attempted
  unfold System.notHidden
  split
  · next windows =>
      rw [if_pos windows] at attempted
      exact System.getWindowsPortNames_hides known fun n member =>
        attempted n (List.mem_append_left _ member)
  · exact System.getUnixBasedPortNames_hides known fun n member =>
      attempted n (List.mem_append_right _ member)

theorem getPortNamesWith_hides (known : s.Known) (attempted : ∀ n ∈ s.ports, s.attempt n ≠ none)
    (given : p.value ≠ []) :
    s.getPortNamesWith isDigit (some p) true = .ok (sort isDigit (s.notHidden p)) := by
  simp only [System.getPortNamesWith, if_neg given]
  exact hides known attempted

/-- What the consumer is shown for each of the ports. -/
def visits (s : System) : List (JavaString × Bool) := s.ports.map fun n => (n, s.isBusy n)

theorem visits_names (s : System) : (visits s).map Prod.fst = s.ports := by
  rw [visits, List.map_map]
  exact List.map_id _

theorem visits_filter (s : System) (q : JavaString × Bool → Bool) :
    ((visits s).filter q).map Prod.fst = s.ports.filter fun n => q (n, s.isBusy n) := by
  rw [visits, List.filter_map, List.map_map]
  exact List.map_id _

theorem lists_all_iff (isLow : ∀ z, isDigit z = true → zero ≤ z) (known : s.Known) :
    Lists isDigit (s.getPortNames isDigit false) ((visits s).map Prod.fst) ↔
      s.all.Perm s.ports := by
  rw [getPortNames_all known, lists_sort_iff isLow, visits_names]

theorem lists_idle_iff (isLow : ∀ z, isDigit z = true → zero ≤ z) (known : s.Known)
    (attempted : ∀ n ∈ s.ports, s.attempt n ≠ none) :
    Lists isDigit (s.getPortNames isDigit true) (((visits s).filter fun v => !v.2).map Prod.fst) ↔
      (s.notHidden System.empty).Perm (s.ports.filter (s.shows System.empty)) := by
  have listed : s.getPortNames isDigit true = .ok (sort isDigit (s.notHidden System.empty)) :=
    hides known attempted
  have shown : (s.ports.filter fun n => !s.isBusy n) = s.ports.filter (s.shows System.empty) := by
    apply List.filter_congr
    simp [System.shows, System.empty]
  rw [listed, lists_sort_iff isLow, visits_filter, shown]

theorem lists_included_iff (isLow : ∀ z, isDigit z = true → zero ≤ z) (known : s.Known)
    (attempted : ∀ n ∈ s.ports, s.attempt n ≠ none) (given : p.value ≠ []) :
    Lists isDigit (s.getPortNamesWith isDigit (some p) true)
        (((visits s).filter fun v => !v.2 || decide (v.1.value = p.value)).map Prod.fst) ↔
      (s.notHidden p).Perm (s.ports.filter (s.shows p)) := by
  have shown : (s.ports.filter fun n => !s.isBusy n || decide (n.value = p.value)) =
      s.ports.filter (s.shows p) := by
    apply List.filter_congr
    simp [System.shows, given]
  rw [getPortNamesWith_hides known attempted given, lists_sort_iff isLow, visits_filter, shown]

/-- The listings agree if they find what is shown, whatever the order. -/
theorem agree_iff (isLow : ∀ z, isDigit z = true → zero ≤ z) (known : s.Known)
    (attempted : ∀ n ∈ s.ports, s.attempt n ≠ none) :
    Agree isDigit s ↔ s.ports.Nodup ∧ s.all.Perm s.ports ∧
      ∀ p, (s.notHidden p).Perm (s.ports.filter (s.shows p)) := by
  have visited : s.getPortNamesConsumer = .ok (visits s) :=
    System.getPortNamesConsumer_eq known attempted
  constructor
  · rintro ⟨visits', ends, distinct, all, idle, included⟩
    rw [visited] at ends
    cases ends
    rw [visits_names] at distinct
    refine ⟨distinct, (lists_all_iff isLow known).mp all, ?_⟩
    intro p
    by_cases none : p.value = []
    · have same : p = System.empty := by
        cases p
        cases none
        rfl
      rw [same]
      exact (lists_idle_iff isLow known attempted).mp idle
    · exact (lists_included_iff isLow known attempted none).mp (included p none)
  · rintro ⟨distinct, all, shown⟩
    refine ⟨visits s, visited, ?_, (lists_all_iff isLow known).mpr all,
      (lists_idle_iff isLow known attempted).mpr (shown _), ?_⟩
    · rw [visits_names]
      exact distinct
    · exact fun p given => (lists_included_iff isLow known attempted given).mpr (shown p)

end Listings

section Regular
variable {s : System}

theorem Regular.attempted (regular : Regular s) : ∀ n ∈ s.ports, s.attempt n ≠ none := by
  intro n member
  rcases regular.attempts n member with free | busy
  · simp [free]
  · simp [busy]

theorem Regular.ports_eq (regular : Regular s) : s.ports = s.all := by
  unfold System.ports System.all
  split
  · next windows =>
      obtain ⟨-, all, none⟩ := regular.registry windows
      rw [none, List.append_nil]
      exact List.filter_eq_self.mpr all
  · rfl

theorem Regular.kept_eq (regular : Regular s) (windows : s.os = .WINDOWS) (p : JavaString) :
    ∀ n ∈ s.registry, s.kept p n = if s.shows p n = true then [n] else [] := by
  intro n member
  obtain ⟨-, all, none⟩ := regular.registry windows
  have named := found_nonempty windows (all n member)
  have ports := regular.ports_eq
  rw [System.all, if_pos windows] at ports
  rw [← ports] at member
  by_cases same : n.value = p.value
  · have shows : s.shows p n = true := by
      rw [System.shows, decide_eq_true ⟨same ▸ named, same⟩, Bool.or_true]
    rw [System.kept, if_neg fun away => away.2.2 same, if_pos shows]
  · rcases regular.attempts n member with free | busy
    · simp [System.kept, System.shows, System.isBusy, free]
    · simp [System.kept, System.shows, System.isBusy, busy, same, all n (by rwa [ports] at member)]

theorem Regular.listed_eq (regular : Regular s) (p : JavaString) :
    ∀ n ∈ s.devices, s.listed p n = if s.shows p n = true then [n] else [] := by
  intro n member
  rcases regular.attempts n (List.mem_append_right _ member) with free | busy
  · simp [System.listed, System.shows, System.isBusy, free]
  · have sides : p.value = n.value ↔ n.value = p.value := eq_comm
    simp [System.listed, System.shows, System.isBusy, busy, sides]

theorem Regular.notHidden_eq (regular : Regular s) (p : JavaString) :
    s.notHidden p = s.ports.filter (s.shows p) := by
  rw [regular.ports_eq]
  unfold System.notHidden System.all
  split
  · next windows => exact flatMap_filters _ _ (regular.kept_eq windows p)
  · exact flatMap_filters _ _ (regular.listed_eq p)

theorem Regular.distinct (regular : Regular s) : s.ports.Nodup := by
  rw [regular.ports_eq]
  unfold System.all
  split
  · next windows => exact (regular.registry windows).1
  · exact devices_nodup

end Regular

section Agreeing
variable {s : System}

/-- On Windows a port that cannot be closed is shown as not busy, but hidden. -/
theorem windows_closed (windows : s.os = .WINDOWS) (hidden : (s.notHidden System.empty).Perm
    (s.ports.filter (s.shows System.empty))) :
    ∀ n ∈ s.registered, s.attempt n ≠ some .unclosed := by
  intro n member unclosed
  have found := (List.mem_filter.mp member).2
  have visited : n ∈ s.ports.filter (s.shows System.empty) := by
    apply List.mem_filter.mpr
    refine ⟨?_, by simp [System.shows, System.isBusy, unclosed]⟩
    rw [System.ports, if_pos windows]
    exact List.mem_append_left _ member
  have kept := hidden.mem_iff.mpr visited
  rw [System.notHidden, if_pos windows] at kept
  obtain ⟨m, -, kept⟩ := List.mem_flatMap.mp kept
  unfold System.kept at kept
  split at kept
  · cases kept
  · next other =>
      obtain rfl := List.mem_singleton.mp kept
      exact other ⟨found, by simp [unclosed], found_nonempty windows found⟩

/-- Elsewhere it is listed twice if it is the one to include. -/
theorem unix_closed (known : s.Known) (unix : s.os ≠ .WINDOWS) (distinct : s.ports.Nodup)
    (hidden : ∀ p, (s.notHidden p).Perm (s.ports.filter (s.shows p))) :
    ∀ n ∈ s.devices, s.attempt n ≠ some .unclosed := by
  intro n member unclosed
  have once : (s.notHidden n).Nodup := (hidden n).nodup_iff.mpr (distinct.filter _)
  rw [System.notHidden, if_neg unix] at once
  have listed := (List.nodup_flatMap.mp once).1 n member
  have some := device_nonempty known unix member
  simp [System.listed, unclosed, some] at listed

/-- On Windows all that is listed has to be shown from the registry. -/
theorem windows_registry (windows : s.os = .WINDOWS) (distinct : s.ports.Nodup)
    (all : s.all.Perm s.ports) :
    s.registry.Nodup ∧ (∀ n ∈ s.registry, s.finds n.value = true) ∧ s.devices = [] := by
  rw [System.all, if_pos windows] at all
  have found : ∀ n ∈ s.registry, s.finds n.value = true := by
    intro n member
    have shown := all.mem_iff.mp member
    rw [System.ports, if_pos windows] at shown
    rcases List.mem_append.mp shown with registered | device
    · exact (List.mem_filter.mp registered).2
    · exact device_found device
  refine ⟨all.nodup_iff.mpr distinct, found, ?_⟩
  have lengths := all.length_eq
  rw [System.ports, if_pos windows, System.registered, List.filter_eq_self.mpr found,
    List.length_append] at lengths
  exact List.eq_nil_of_length_eq_zero (by omega)

theorem regular_of_agree {isDigit : UInt16 → Bool} (isLow : ∀ z, isDigit z = true → zero ≤ z)
    (agree : Agree isDigit s) : Regular s := by
  obtain ⟨known, attempted⟩ : s.Known ∧ ∀ n ∈ s.ports, s.attempt n ≠ none := by
    obtain ⟨visits, ends, -⟩ := agree
    exact System.attempted_of_consumer ends
  obtain ⟨distinct, all, hidden⟩ := (agree_iff isLow known attempted).mp agree
  refine ⟨known, ?_, fun windows => windows_registry windows distinct all⟩
  have closed : ∀ n ∈ s.ports, s.attempt n ≠ some .unclosed := by
    by_cases windows : s.os = .WINDOWS
    · obtain ⟨-, -, none⟩ := windows_registry windows distinct all
      have closed := windows_closed windows (hidden _)
      rw [System.ports, if_pos windows, none, List.append_nil]
      exact closed
    · rw [System.ports, if_neg windows]
      exact unix_closed known windows distinct hidden
  intro n member
  obtain ⟨attempt, attempted⟩ := Option.ne_none_iff_exists'.mp (attempted n member)
  have closed := closed n member
  cases attempt with
  | free => exact .inl attempted
  | busy => exact .inr attempted
  | unclosed => exact absurd attempted closed

end Agreeing

/-- The listings agree exactly on the regular systems. -/
theorem listings_agree_iff (isDigit : UInt16 → Bool) (isLow : ∀ z, isDigit z = true → zero ≤ z)
    (s : System) :
    Agree isDigit s ↔ Regular s := by
  constructor
  · exact regular_of_agree isLow
  · intro regular
    apply (agree_iff isLow regular.known regular.attempted).mpr
    refine ⟨regular.distinct, ?_, fun p => ?_⟩
    · rw [regular.ports_eq]
    · rw [regular.notHidden_eq]

/-- A busy port, a free one, and a device that is no port. -/
def linux : System where
  os := .LINUX
  registry := []
  drive := []
  listing := [⟨units "ttyS0", .neither, by decide⟩, ⟨units "null", .neither, by decide⟩,
    ⟨units "ttyUSB0", .neither, by decide⟩]
  distinct := by decide
  socket := fun portName =>
    if portName.value = units "/dev/ttyS0" then
      .error (.ioException "Port is busy") else .ok ⟨.ok ()⟩

theorem listings_agree_linux : Agree (fun c => decide (48 ≤ c ∧ c ≤ 57)) linux := by
  apply (listings_agree_iff _ (fun _ digit => (of_decide_eq_true digit).1) linux).mpr
  constructor
  · intro name other
    cases other
  · intro n _
    by_cases busy : n.value = units "/dev/ttyS0"
    · right
      simp [System.attempt, System.openPort, linux, busy, JavaException.isIOException]
    · left
      simp [System.attempt, System.openPort, linux, busy]
  · intro windows
    cases windows

/-- A free port whose name is not that of a port for Windows. -/
def windows : System where
  os := .WINDOWS
  registry := [⟨units "CNCA0", by decide⟩]
  drive := units "C:\\"
  listing := []
  distinct := List.nodup_nil
  socket := fun _ => .ok ⟨.ok ()⟩

/-- `CNCA0` is listed, but not shown to the consumer. -/
theorem listings_disagree : ¬∀ s : System,
    (∀ n, s.attempt n = some .free ∨ s.attempt n = some .busy) → s.registry.Nodup →
      Agree (fun c => decide (48 ≤ c ∧ c ≤ 57)) s := by
  intro agree
  have agrees := agree windows (fun _ => .inl rfl) (List.nodup_singleton _)
  have regular := regular_of_agree (fun _ digit => (of_decide_eq_true digit).1) agrees
  have found := (regular.registry rfl).2.1 _ List.mem_cons_self
  exact absurd found (by decide)

end Spsw.Jni.SerialPortSocketFactoryImpl
