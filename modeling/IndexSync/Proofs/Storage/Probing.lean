import IndexSync.Proofs.Search.Answers

/-!
# Paths that cannot be probed

A probe tells whether something is at a path. The errors that mean that nothing is there make it
answer no; after any other error nobody knows, and the probe fails with it.

* `Host.Obscured` — it cannot be told whether something is at a path;
* `Host.exists?_eq_error` — these are the probes that fail;
* `Host.Obscured.nameTooLong` — on a host without faults, it takes a name that is too long;
* `Host.obscured_of_long` — and a text that is too long is enough.
-/

namespace IndexSync.Host

variable {h : Host} {p : FsPath} {errno : Errno} {e : Failure}

/-- A path cannot be looked at because of an error that does not mean that nothing is there. -/
def Obscured (h : Host) (p : FsPath) (errno : Errno) : Prop :=
  h.stat p = .error (.system errno (some p.text)) ∧ errno.isAbsence = false

/-- The probes that fail are those of paths that cannot be looked at. -/
theorem exists?_eq_error : h.exists? p = .error e ↔
    ∃ errno, h.Obscured p errno ∧ e = .system errno (some p.text) := by
  rw [exists?, probe_eq_error]
  constructor
  · rintro ⟨hstat, habsent⟩
    rcases eq_of_guarded hstat with rfl | ⟨errno, rfl⟩
    · cases habsent
    · exact ⟨errno, ⟨hstat, habsent⟩, rfl⟩
  · rintro ⟨errno, ⟨hstat, habsent⟩, rfl⟩
    exact ⟨hstat, habsent⟩

/-- Without faults, a system call fails by itself. -/
theorem act_of_guarded_error {α : Type} {call : Call} {act : Except Errno α} {file : Option String}
    (hfaults : h.faults = []) (hcall : h.guarded call p act = .error (.system errno file)) :
    act = .error errno := by
  unfold guarded deny at hcall
  rw [show h.faultOf call p.text = none by simp [faultOf, hfaults]] at hcall
  split at hcall
  · cases hcall
  · cases act with
    | ok a => cases hcall
    | error errno' =>
      obtain ⟨rfl, -⟩ := Failure.system.inj (Except.error.inj hcall)
      rfl

/-- Without faults, a path can be looked at unless it, or a name on its way, is too long. -/
theorem Obscured.nameTooLong (hfaults : h.faults = []) (hobscured : h.Obscured p errno) :
    errno = Errno.nameTooLong := by
  obtain ⟨hstat, hpresent⟩ := hobscured
  have hlocate : h.locate .use p = .error errno := by
    have hact := act_of_guarded_error hfaults hstat
    cases hlocate : h.locate .use p with
    | ok found =>
      rw [hlocate] at hact
      cases hact
    | error errno' =>
      rw [hlocate] at hact
      exact congrArg Except.error (Except.error.inj hact)
  -- Of all obstacles, only a long name does not mean that nothing is there.
  cases obstacle_of_locate hlocate with
  | nameTooLong => rfl
  | isDirectory hcreate => cases hcreate
  | notDirectory => cases hpresent
  | noEntry => cases hpresent
  | linkLoop => cases hpresent

/-- The text of a path can be too long to look at what is there. -/
theorem obscured_of_long {text : String} (hfaults : h.faults = []) (hnull : NullFree p.text)
    (htext : h.callText? p = some text) (hlong : maxPathBytes ≤ text.toList.length) :
    h.Obscured p Errno.nameTooLong := by
  have hfind : h.find .use p = .error Errno.nameTooLong := by
    rw [find, htext]
    exact if_pos (hlong.trans (length_le_encode text))
  refine ⟨guarded_eq_error hfaults hnull ?_, rfl⟩
  rw [locate, hfind]
  rfl

end IndexSync.Host
