import Spsw.Jni.TermiosIO

/-!
# What the parts of a native call do

One rule for each of the steps that reads and writes are made of: the events it adds to
the history, and what it leaves of its environment alone.
-/
namespace Spsw.Jni.TermiosIO
open Interaction
open Interaction.Method (mwp mwp_mono)
open Jnhw (Direction Errno PollResult Timespec POLLIN POLLHUP POLLNVAL INVALID_FD)

/-- At most `errno` has changed. -/
structure Same (env env' : Env) : Prop where
  raised : env'.raised = env.raised
  buff : env'.buff = env.buff

/-- The events of one `poll`, and what it reports. -/
inductive Polled : History termios → Except Errno PollResult → Prop
  | atOnce {d : Direction} {port close timeout : ℤ} (result : Except Errno PollResult) :
      Polled [⟨.poll d port close timeout, some result⟩] result
  | asleep {d : Direction} {port close timeout : ℤ} (result : Except Errno PollResult) :
      Polled [⟨.poll d port close timeout, none⟩, ⟨.sleep d port close timeout, result⟩] result

section Steps
variable {h : History termios} {env : Env} {s : Settings}

theorem Same.refl (env : Env) : Same env env := ⟨rfl, rfl⟩

theorem getFd_calls :
    mwp (fun _ => True) h env getFd (fun h' env' x => ∃ fd, h' = h ++ [⟨.getFd, fd⟩] ∧
    env' = env ∧ x = .ok fd) :=
  mwp_ask.mpr fun fd => ⟨trivial, fd, rfl, rfl, rfl⟩

theorem getCloseEventReadFd_calls : mwp (fun _ => True) h env getCloseEventReadFd (fun h' env' x =>
    ∃ fd, h' = h ++ [⟨.getCloseEventReadFd, fd⟩] ∧ env' = env ∧ x = .ok fd) :=
  mwp_ask.mpr fun fd => ⟨trivial, fd, rfl, rfl, rfl⟩

theorem clock_gettime_calls (t : Timespec) :
    mwp (fun _ => True) h env (clock_gettime t) (fun h' env' x =>
    ∃ r now, h' = h ++ [⟨.clockGettime, r⟩] ∧ Same env env' ∧ x = .ok now) := by
  simp only [clock_gettime, Method.mwp_bind, mwp_ask, Method.rest_ok, true_and]
  intro r
  cases r with
  | ok now => exact Method.mwp_pure.mpr ⟨_, now, rfl, .refl env, rfl⟩
  | error errno =>
      simp only [Method.mwp_bind, mwp_setErrno, Method.rest_ok]
      exact Method.mwp_pure.mpr ⟨_, t, rfl, ⟨rfl, rfl⟩, rfl⟩

theorem endTime_calls (timeout : ℤ) :
    mwp (fun _ => True) h env (endTime s timeout) (fun h' env' x =>
    (h' = h ∨ ∃ r, h' = h ++ [⟨.clockGettime, r⟩]) ∧ Same env env' ∧ ∃ e, x = .ok e) := by
  rw [endTime]
  split
  · rw [Method.mwp_bind]
    apply mwp_mono (clock_gettime_calls _)
    rintro h' env' x ⟨r, now, rfl, same, rfl⟩
    exact Method.rest_ok.mpr (Method.mwp_pure.mpr ⟨.inr ⟨r, rfl⟩, same, _, rfl⟩)
  · exact Method.mwp_pure.mpr ⟨.inl rfl, .refl env, _, rfl⟩

theorem noted_calls (result : Except Errno PollResult) :
    mwp (fun _ => True) h env (noted result) (fun h' env' x =>
    h' = h ∧ Same env env' ∧ x = .ok result) := by
  cases result with
  | ok result => exact Method.mwp_pure.mpr ⟨rfl, .refl env, rfl⟩
  | error errno =>
      simp only [noted, Method.mwp_bind, mwp_setErrno, Method.rest_ok, Method.mwp_pure]
      exact ⟨trivial, ⟨rfl, rfl⟩, trivial⟩

theorem poll_calls (d : Direction) (port close timeout : ℤ) :
    mwp (fun _ => True) h env (poll d port close timeout) (fun h' env' x =>
    ∃ t result, h' = h ++ t ∧ Polled t result ∧ Same env env' ∧ x = .ok result) := by
  simp only [poll, Method.mwp_bind, mwp_ask, Method.rest_ok, true_and]
  intro ready
  cases ready with
  | some result =>
      refine Method.mwp_pure.mpr (Method.rest_ok.mpr (mwp_mono (noted_calls result) ?_))
      rintro h' env' x ⟨rfl, same, rfl⟩
      exact ⟨_, result, rfl, .atOnce result, same, rfl⟩
  | none =>
      refine mwp_ask.mpr fun result =>
        ⟨trivial, Method.rest_ok.mpr (mwp_mono (noted_calls result) ?_)⟩
      rintro h' env' x ⟨rfl, same, rfl⟩
      exact ⟨_, result, List.append_assoc h _ _, .asleep result, same, rfl⟩

/-- A read puts what it obtains to the place it is given. -/
theorem read_calls (fd : ℤ) (offset room : ℕ) :
    mwp (fun _ => True) h env (read fd offset room) (fun h' env' x =>
    (∃ bytes : { bytes : List UInt8 // bytes.length ≤ room },
      h' = h ++ [⟨.read fd room, .ok bytes⟩] ∧
      env'.raised = env.raised ∧
      env'.buff = env.buff.take offset ++ bytes.val ++ env.buff.drop (offset + bytes.val.length) ∧
      x = .ok (.ok bytes.val.length)) ∨
    ∃ errno, h' = h ++ [⟨.read fd room, .error errno⟩] ∧ Same env env' ∧
        x = .ok (.error errno)) := by
  simp only [read, Method.mwp_bind, mwp_ask, Method.rest_ok, true_and]
  intro r
  cases r with
  | ok bytes =>
      simp only [Method.mwp_bind, Method.mwp_assign, Method.rest_ok]
      exact Method.mwp_pure.mpr (.inl ⟨bytes, rfl, rfl, rfl, rfl⟩)
  | error errno =>
      simp only [Method.mwp_bind, mwp_setErrno, Method.rest_ok]
      exact Method.mwp_pure.mpr (.inr ⟨errno, rfl, ⟨rfl, rfl⟩, rfl⟩)

end Steps
end Spsw.Jni.TermiosIO
