import Mathlib.Data.List.Basic
import AgentLaunch.Launch

/-!
# Causes of failed launches

A launch fails over the account or over the spawner, and all that it keeps of the error is a text.
Each kind of error has a heading of its own, and no heading begins another one. So the kind and what
follows the heading can be read back, also where that text looks like another error's message.
-/

namespace AgentLaunch

/-- Why a launch failed. -/
inductive Cause where
  | lookup (e : LookupError)
  | spawn (e : SpawnError)
  deriving DecidableEq, Repr

namespace Cause

inductive Kind where
  | unknownUser
  | lookupFailed
  | programNotFound
  | permissionDenied
  | io
  deriving DecidableEq, Repr

namespace Kind

def all : List Kind :=
  [.unknownUser, .lookupFailed, .programNotFound, .permissionDenied, .io]

theorem mem_all (k : Kind) : k ∈ all := by
  cases k <;> decide

/-- What stands in front of the text of an error. -/
def heading : Kind → String
  | .unknownUser => "Unknown user: "
  | .lookupFailed => "User lookup failed: "
  | .programNotFound => "Program not found: "
  | .permissionDenied => "Permission denied: "
  | .io => "IO error: "

theorem eq_of_heading_begins {j k : Kind} (h : j.heading.toList <+: k.heading.toList) : j = k := by
  have hall : ∀ j ∈ all, ∀ k ∈ all, j.heading.toList <+: k.heading.toList → j = k := by decide
  exact hall j j.mem_all k k.mem_all h

/-- Two headings in front of one text are both at its beginning, so one of them begins the other. -/
theorem heading_append_inj {j k : Kind} {s t : String} (h : j.heading ++ s = k.heading ++ t) :
    j = k ∧ s = t := by
  have hchars : j.heading.toList ++ s.toList = k.heading.toList ++ t.toList := by
    simpa using congrArg String.toList h
  have hj : j.heading.toList <+: k.heading.toList ++ t.toList := ⟨s.toList, hchars⟩
  have hk : k.heading.toList <+: k.heading.toList ++ t.toList := ⟨t.toList, rfl⟩
  have hkind : j = k := by
    rcases List.prefix_or_prefix_of_prefix hj hk with hjk | hkj
    · exact eq_of_heading_begins hjk
    · exact (eq_of_heading_begins hkj).symm
  subst hkind
  exact ⟨rfl, (String.append_right_inj j.heading).mp h⟩

end Kind

/-- How a launch that fails for this cause reports it. -/
def failure : Cause → LaunchFailure
  | .lookup e => .ofLookup e
  | .spawn e => .ofSpawn e

def kind : Cause → Kind
  | .lookup (.unknownUser _) => .unknownUser
  | .lookup (.failed _) => .lookupFailed
  | .spawn (.programNotFound _) => .programNotFound
  | .spawn (.permissionDenied _) => .permissionDenied
  | .spawn (.io _) => .io

def text : Cause → String
  | .lookup (.unknownUser name) => name
  | .lookup (.failed reason) => reason
  | .spawn (.programNotFound program) => program
  | .spawn (.permissionDenied reason) => reason
  | .spawn (.io reason) => reason

/-- The cause of a kind with a text. -/
def ofKind : Kind → String → Cause
  | .unknownUser, name => .lookup (.unknownUser name)
  | .lookupFailed, reason => .lookup (.failed reason)
  | .programNotFound, program => .spawn (.programNotFound program)
  | .permissionDenied, reason => .spawn (.permissionDenied reason)
  | .io, reason => .spawn (.io reason)

section Reading

variable {c d : Cause} {reason message : String}

@[simp] theorem kind_ofKind (k : Kind) (text : String) : (ofKind k text).kind = k := by
  cases k <;> rfl

@[simp] theorem text_ofKind (k : Kind) (text : String) : (ofKind k text).text = text := by
  cases k <;> rfl

@[simp] theorem ofKind_kind_text (c : Cause) : ofKind c.kind c.text = c := by
  cases c with
  | lookup e => cases e <;> rfl
  | spawn e => cases e <;> rfl

theorem reason_failure (c : Cause) : c.failure.reason = c.kind.heading ++ c.text := by
  cases c with
  | lookup e => cases e <;> rfl
  | spawn e => cases e <;> rfl

theorem eq_iff : c = d ↔ c.kind = d.kind ∧ c.text = d.text := by
  constructor
  · rintro rfl
    exact ⟨rfl, rfl⟩
  · rintro ⟨hkind, htext⟩
    rw [← ofKind_kind_text c, hkind, htext, ofKind_kind_text]

theorem eq_of_reason_eq (h : c.failure.reason = d.failure.reason) : c = d := by
  rw [reason_failure, reason_failure] at h
  exact eq_iff.mpr (Kind.heading_append_inj h)

/-- What follows a heading, in a text that has it. -/
def after? (heading s : String) : Option String :=
  (heading.toList.isPrefixOf? s.toList).map String.ofList

theorem after?_eq_some_iff {heading s rest : String} :
    after? heading s = some rest ↔ s = heading ++ rest := by
  rw [after?, Option.map_eq_some_iff]
  constructor
  · rintro ⟨cs, hcs, rfl⟩
    rw [List.isPrefixOf?_eq_some_iff_append_eq] at hcs
    rw [← String.toList_inj, ← hcs]
    simp
  · rintro rfl
    exact ⟨rest.toList, by simp, by simp⟩

/-- The cause that a reason tells of. -/
def ofReason? (reason : String) : Option Cause :=
  Kind.all.findSome? fun k => (after? k.heading reason).map (ofKind k)

/-- The cause that the message of a failed launch tells of. -/
def ofMessage? (message : String) : Option Cause :=
  (after? "Launch failed: " message).bind ofReason?

theorem reason_of_ofReason? (h : ofReason? reason = some c) : reason = c.failure.reason := by
  obtain ⟨k, -, hk⟩ := List.exists_of_findSome?_eq_some h
  obtain ⟨rest, hrest, rfl⟩ := Option.map_eq_some_iff.mp hk
  rw [after?_eq_some_iff.mp hrest, reason_failure, kind_ofKind, text_ofKind]

theorem ofReason?_eq_some_iff : ofReason? reason = some c ↔ reason = c.failure.reason := by
  constructor
  · exact reason_of_ofReason?
  · rintro rfl
    -- The heading of `c` is found, so a cause is read; by the other direction it can only be `c`.
    have hsome : (ofReason? c.failure.reason).isSome := by
      rw [ofReason?, List.findSome?_isSome_iff]
      refine ⟨c.kind, c.kind.mem_all, ?_⟩
      rw [after?_eq_some_iff.mpr (reason_failure c)]
      rfl
    obtain ⟨d, hd⟩ := Option.isSome_iff_exists.mp hsome
    rw [hd, eq_of_reason_eq (reason_of_ofReason? hd)]

theorem eq_of_message_eq (h : c.failure.message = d.failure.message) : c = d :=
  eq_of_reason_eq ((String.append_right_inj "Launch failed: ").mp h)

theorem ofMessage?_eq_some_iff : ofMessage? message = some c ↔ message = c.failure.message := by
  rw [ofMessage?, Option.bind_eq_some_iff, LaunchFailure.message]
  constructor
  · rintro ⟨reason, hreason, hc⟩
    rw [after?_eq_some_iff.mp hreason, reason_of_ofReason? hc]
  · intro h
    exact ⟨_, after?_eq_some_iff.mpr h, ofReason?_eq_some_iff.mpr rfl⟩

end Reading

/-- Two causes are reported alike only if they are of one kind and have one text; both are read back
from the reason of a failure, and from its message. -/
theorem reason_identifies_cause (c : Cause) :
    (∀ d : Cause, c.failure = d.failure ↔ c.kind = d.kind ∧ c.text = d.text) ∧
    (∀ d : Cause, c.failure.message = d.failure.message ↔ c.kind = d.kind ∧ c.text = d.text) ∧
    (∀ reason, ofReason? reason = some c ↔ reason = c.failure.reason) ∧
    ∀ message, ofMessage? message = some c ↔ message = c.failure.message := by
  refine ⟨?_, ?_, fun _ => ofReason?_eq_some_iff, fun _ => ofMessage?_eq_some_iff⟩
  · intro d
    rw [← eq_iff]
    exact ⟨fun h => eq_of_reason_eq (congrArg LaunchFailure.reason h), congrArg failure⟩
  · intro d
    rw [← eq_iff]
    exact ⟨eq_of_message_eq, congrArg fun c : Cause => c.failure.message⟩

/-- The text of an error may look like the message of another one. -/
example : ofReason? "IO error: Unknown user: x" = some (.spawn (.io "Unknown user: x")) := by
  decide

end Cause

end AgentLaunch
