import Mathlib
import AgentLaunch.Host
import AgentLaunch.Proofs.Bind

/-!
# Credentials

Under which user and which group a process runs. The user is the one of the account that was asked
for, whoever asks. The group goes with the user: it is changed where the user is changed, so that a
caller who is that user already keeps its own group, whatever group the account has.
-/

namespace AgentLaunch

namespace SpawnPlan

section Plan

variable {caller : Caller} {r : Request}

/-- A caller who is the user already changes nothing. -/
theorem ofRequest_of_user_eq (h : caller.uid = r.account.uid) :
    (ofRequest caller r).uid = none ∧ (ofRequest caller r).gid = none := by
  simp only [ofRequest, if_pos h, and_self]

/-- Any other caller changes both numbers. -/
theorem ofRequest_of_user_ne (h : caller.uid ≠ r.account.uid) :
    (ofRequest caller r).uid = some r.account.uid ∧
      (ofRequest caller r).gid = some r.account.gid := by
  simp only [ofRequest, if_neg h, and_self]

theorem credentials_of_user_eq (h : caller.uid = r.account.uid) :
    credentials caller (ofRequest caller r) = (caller.uid, caller.gid) := by
  obtain ⟨huid, hgid⟩ := ofRequest_of_user_eq h
  rw [credentials, huid, hgid]
  rfl

theorem credentials_of_user_ne (h : caller.uid ≠ r.account.uid) :
    credentials caller (ofRequest caller r) = (r.account.uid, r.account.gid) := by
  obtain ⟨huid, hgid⟩ := ofRequest_of_user_ne h
  rw [credentials, huid, hgid]
  rfl

theorem credentials_ofRequest : credentials caller (ofRequest caller r) =
    (r.account.uid, if caller.uid = r.account.uid then caller.gid else r.account.gid) := by
  by_cases h : caller.uid = r.account.uid
  · rw [credentials_of_user_eq h, if_pos h, h]
  · rw [credentials_of_user_ne h, if_neg h]

end Plan

/-- The credentials of a request, for every caller. They are those of the account unless the caller
is the account's user under another group. -/
theorem credentials_of_request (caller : Caller) (r : Request) :
    (credentials caller (ofRequest caller r)).1 = r.account.uid ∧
    (credentials caller (ofRequest caller r)).2 =
      (if caller.uid = r.account.uid then caller.gid else r.account.gid) ∧
    (credentials caller (ofRequest caller r) = (r.account.uid, r.account.gid) ↔
      ¬ (caller.uid = r.account.uid ∧ caller.gid ≠ r.account.gid)) := by
  by_cases h : caller.uid = r.account.uid
  · rw [credentials_of_user_eq h, if_pos h, h]
    simp
  · rw [credentials_of_user_ne h, if_neg h]
    simp [h]

/-- A superuser under the group 0 does not come to the group of another account of the user 0. -/
theorem superuser_keeps_group :
    let r : Request := ⟨⟨"/bin/sh", ["-c", "x"]⟩, ⟨"toor", 0, 7⟩⟩
    credentials ⟨0, 0⟩ (ofRequest ⟨0, 0⟩ r) = (0, 0) ∧
      credentials ⟨0, 0⟩ (ofRequest ⟨0, 0⟩ r) ≠ (r.account.uid, r.account.gid) := by
  decide

end SpawnPlan

namespace Host

variable {h after : Host} {r : Request} {process : Process}

/-- The process is the run of what the machine finds for a program and its arguments, under this
user and this group. -/
def Runs (h : Host) (credentials : UInt32 × UInt32) (program : String) (args : List String)
    (process : Process) : Prop :=
  ∃ image, h.find program args = .ok image ∧
    process.ending = (Shell.beginProgram Shell.callDepth image
      (((h.under credentials).begin (h.lastPid + 1)).renewed program image)).ending

/-- Whether a machine carries out a plan that changes to this user, or to none. -/
def Admits (h : Host) (uid : Option UInt32) : Prop :=
  uid = none ∨ h.privileged = true

theorem admits_iff {uid : Option UInt32} :
    h.Admits uid ↔ ¬ (uid.isSome = true ∧ (!h.privileged) = true) := by
  cases uid <;> cases hprivileged : h.privileged <;> simp [Admits, hprivileged]

/-- A plan is carried out only if it has no NUL to pass on and no user to change to without the
privilege to do so. -/
theorem runs_of_execute {p : SpawnPlan} (hout : h.execute p = .ok (process, after)) :
    p.sawNul = false ∧ h.Admits p.uid ∧
      h.Runs (SpawnPlan.credentials h.caller p) p.program p.args process := by
  rw [execute] at hout
  cases hnul : p.sawNul with
  | true =>
    rw [hnul] at hout
    cases hout
  | false =>
    by_cases hadmits : h.Admits p.uid
    · rw [hnul, if_neg (admits_iff.mp hadmits)] at hout
      obtain ⟨image, himage, hout⟩ := exists_of_bind_ok hout
      cases hout
      exact ⟨rfl, hadmits, image, himage, rfl⟩
    · rw [hnul, if_pos (not_not.mp (mt admits_iff.mpr hadmits))] at hout
      cases hout

/-- Nothing else keeps a machine from carrying out a plan whose program it finds. -/
theorem exists_execute {p : SpawnPlan} (hnul : p.sawNul = false) (hadmits : h.Admits p.uid)
    {image : Image} (himage : h.find p.program p.args = .ok image) :
    ∃ process after, h.execute p = .ok (process, after) := by
  rw [execute, hnul, if_neg (admits_iff.mp hadmits), himage]
  exact ⟨_, _, rfl⟩

end Host

end AgentLaunch
