import AgentLaunch.Proofs.AgentCommand
import AgentLaunch.Proofs.Credentials
import AgentLaunch.Proofs.Launch

/-!
# Requests carried out to the letter

The words of a request reach the operating system as they are, or nothing is started. No word of a
system call can hold a NUL. A plan stands in another word for one that does, and is refused before
anything else is looked at, so that the other word is never run.
-/

namespace AgentLaunch

namespace SpawnPlan

section Words

variable {caller : Caller} {r : Request} {s : String}

theorem hasNul_iff : hasNul s = true ↔ '\x00' ∈ s.toList := by
  rw [hasNul, List.contains_iff_mem]

theorem not_hasNul_word : ¬ '\x00' ∈ (word s).toList := by
  unfold word
  split
  · decide
  next h => rwa [← hasNul_iff]

theorem word_eq_self_iff : word s = s ↔ '\x00' ∉ s.toList := by
  constructor
  · intro h
    rw [← h]
    exact not_hasNul_word
  · intro h
    rw [word, if_neg (mt hasNul_iff.mp h)]

theorem argv_ofRequest :
    (ofRequest caller r).program :: (ofRequest caller r).args = r.command.argv.map word :=
  rfl

/-- A plan has the words of its request just when they can be passed on. -/
theorem argv_ofRequest_eq_iff :
    (ofRequest caller r).program :: (ofRequest caller r).args = r.command.argv ↔
      ∀ w ∈ r.command.argv, '\x00' ∉ w.toList := by
  have hmap := List.map_eq_map_iff (f := word) (g := id) (l := r.command.argv)
  rw [List.map_id] at hmap
  rw [argv_ofRequest, hmap]
  exact forall₂_congr fun w _ => word_eq_self_iff

theorem sawNul_iff :
    (ofRequest caller r).sawNul = true ↔ ∃ w ∈ r.command.argv, '\x00' ∈ w.toList := by
  simp [ofRequest, hasNul_iff]

end Words

end SpawnPlan

namespace Host

section Spawn

variable {h after : Host} {r : Request} {process : Process}

theorem spawn_of_error {e : OsError} (he : h.execute (.ofRequest h.caller r) = .error e) :
    spawn r h = ⟨(.error (.ofOs r.command.program e), h), SpawnPlan.events h.caller r⟩ := by
  rw [spawn, Logged.bind_eq]
  simp [he]

theorem spawn_of_ok (hout : h.execute (.ofRequest h.caller r) = .ok (process, after)) :
    spawn r h = ⟨(.ok process, after),
      SpawnPlan.events h.caller r ++ [.spawned r.command.program process.id]⟩ := by
  rw [spawn, Logged.bind_eq]
  simp [hout, Logged.bind_eq, Logged.report]

/-- A request with a NUL is refused, and the machine stays as it is. -/
theorem spawn_of_nul (hnul : ∃ w ∈ r.command.argv, '\x00' ∈ w.toList) :
    spawn r h = ⟨(.error (.io (r.command.program ++ ": nul byte found in provided data")), h),
      SpawnPlan.events h.caller r⟩ := by
  have hexecute : h.execute (.ofRequest h.caller r) = .error SpawnPlan.nulError := by
    rw [execute, SpawnPlan.sawNul_iff.mpr hnul]
    rfl
  have htext : r.command.program ++ ": nul byte found in provided data" =
      r.command.program ++ ": " ++ "nul byte found in provided data" := by
    rw [String.append_assoc]
    rfl
  rw [spawn_of_error hexecute, htext]
  rfl

theorem sawNul_eq_false_iff {caller : Caller} :
    (SpawnPlan.ofRequest caller r).sawNul = false ↔ ∀ w ∈ r.command.argv, '\x00' ∉ w.toList := by
  rw [← Bool.not_eq_true, SpawnPlan.sawNul_iff]
  push Not
  rfl

/-- A machine carries out a request for the caller's own user, and with the privilege any. -/
theorem admits_ofRequest_iff : h.Admits (SpawnPlan.ofRequest h.caller r).uid ↔
    h.caller.uid = r.account.uid ∨ h.privileged = true := by
  by_cases huser : h.caller.uid = r.account.uid
  · rw [(SpawnPlan.ofRequest_of_user_eq huser).1]
    exact iff_of_true (.inl rfl) (.inl huser)
  · rw [(SpawnPlan.ofRequest_of_user_ne huser).1]
    simp [Admits, huser]

/-- What runs is what was asked for, word by word, under the user that was asked for. -/
theorem runs_of_spawn (hspawn : (spawn r h).value = (.ok process, after)) :
    (∀ w ∈ r.command.argv, '\x00' ∉ w.toList) ∧
      (h.caller.uid = r.account.uid ∨ h.privileged = true) ∧
      h.Runs (r.account.uid, if h.caller.uid = r.account.uid then h.caller.gid else r.account.gid)
        r.command.program r.command.args process := by
  cases hout : h.execute (.ofRequest h.caller r) with
  | error e =>
    rw [spawn_of_error hout] at hspawn
    cases hspawn
  | ok out =>
    rw [spawn_of_ok hout] at hspawn
    cases hspawn
    obtain ⟨hnul, hadmits, hruns⟩ := runs_of_execute hout
    have hnone := sawNul_eq_false_iff.mp hnul
    -- Without a NUL the words of the plan are those of the request.
    obtain ⟨hprogram, hargs⟩ := List.cons.inj (SpawnPlan.argv_ofRequest_eq_iff.mpr hnone)
    rw [hprogram, hargs, SpawnPlan.credentials_ofRequest] at hruns
    exact ⟨hnone, admits_ofRequest_iff.mp hadmits, hruns⟩

/-- Whatever the machine finds the program of is started. -/
theorem exists_spawn (hnul : ∀ w ∈ r.command.argv, '\x00' ∉ w.toList)
    (hadmits : h.caller.uid = r.account.uid ∨ h.privileged = true) {image : Image}
    (himage : h.find r.command.program r.command.args = .ok image) :
    ∃ process after, (spawn r h).value = (.ok process, after) := by
  have hargv : (SpawnPlan.ofRequest h.caller r).program ::
      (SpawnPlan.ofRequest h.caller r).args = r.command.argv :=
    SpawnPlan.argv_ofRequest_eq_iff.mpr hnul
  obtain ⟨hprogram, hargs⟩ := List.cons.inj hargv
  rw [← hprogram, ← hargs] at himage
  obtain ⟨process, after, hout⟩ :=
    exists_execute (sawNul_eq_false_iff.mpr hnul) (admits_ofRequest_iff.mpr hadmits) himage
  exact ⟨process, after, by rw [spawn_of_ok hout]⟩

/-- How a machine carries a request out. -/
structure Conduct (h : Host) (r : Request) : Prop where
  verbatim : (SpawnPlan.ofRequest h.caller r).program :: (SpawnPlan.ofRequest h.caller r).args =
    r.command.argv ↔ ∀ w ∈ r.command.argv, '\x00' ∉ w.toList
  streams : (SpawnPlan.ofRequest h.caller r).stdin = .null ∧
    (SpawnPlan.ofRequest h.caller r).stdout = .null ∧
    (SpawnPlan.ofRequest h.caller r).stderr = .null
  /-- The process leads a group of its own. -/
  group : (SpawnPlan.ofRequest h.caller r).processGroup = 0
  account :
    (h.caller.uid = r.account.uid ∧ (SpawnPlan.ofRequest h.caller r).uid = none ∧
      (SpawnPlan.ofRequest h.caller r).gid = none) ∨
    (h.caller.uid ≠ r.account.uid ∧
      (SpawnPlan.ofRequest h.caller r).uid = some r.account.uid ∧
      (SpawnPlan.ofRequest h.caller r).gid = some r.account.gid)
  refused : (∃ w ∈ r.command.argv, '\x00' ∈ w.toList) → spawn r h =
    ⟨(.error (.io (r.command.program ++ ": nul byte found in provided data")), h),
      SpawnPlan.events h.caller r⟩
  /-- Another account is taken on with the privilege to do so only. -/
  started : ∀ process after, (spawn r h).value = (.ok process, after) →
    (∀ w ∈ r.command.argv, '\x00' ∉ w.toList) ∧
      (h.caller.uid = r.account.uid ∨ h.privileged = true) ∧
      h.Runs (r.account.uid, if h.caller.uid = r.account.uid then h.caller.gid else r.account.gid)
        r.command.program r.command.args process
  starts : (∀ w ∈ r.command.argv, '\x00' ∉ w.toList) →
    h.caller.uid = r.account.uid ∨ h.privileged = true →
    (∃ image, h.find r.command.program r.command.args = .ok image) →
    ∃ process after, (spawn r h).value = (.ok process, after)

theorem conduct (h : Host) (r : Request) : Conduct h r where
  verbatim := SpawnPlan.argv_ofRequest_eq_iff
  streams := ⟨rfl, rfl, rfl⟩
  group := rfl
  account := by
    by_cases huser : h.caller.uid = r.account.uid
    · exact .inl ⟨huser, SpawnPlan.ofRequest_of_user_eq huser⟩
    · exact .inr ⟨huser, SpawnPlan.ofRequest_of_user_ne huser⟩
  refused := spawn_of_nul
  started _ _ := runs_of_spawn
  starts hnul hadmits hfound := hfound.elim fun _ himage => exists_spawn hnul hadmits himage

end Spawn

section Launch

variable {h : Host} {accounts : AccountTable} {now : Int} {spec : Spec} {account : Account}

theorem platform_spawn_of_nul {r : Request} (hnul : ∃ w ∈ r.command.argv, '\x00' ∈ w.toList) :
    (platform accounts).spawn r h =
      ⟨(.error (.io (r.command.program ++ ": nul byte found in provided data")), h),
        SpawnPlan.events h.caller r⟩ := by
  change spawn r h >>= _ = _
  rw [spawn_of_nul hnul, Logged.bind_eq]
  simp

/-- A NUL in any field but the user keeps an agent from being launched, whoever knows the
account. -/
theorem launch_of_nul {lookup : String → Logged (Except LookupError Account)}
    (haccount : (lookup spec.runAsUser).value = .ok account)
    (hnul : ∃ f, f ≠ .runAsUser ∧ '\x00' ∈ (spec.get f).toList) :
    (launch { platform accounts with resolve := lookup } now spec h).value =
      (.error ⟨"IO error: " ++ (Layout.binary spec.installRoot spec.version ++
        ": nul byte found in provided data")⟩, h) := by
  have hfixed : ∀ w ∈ Command.fixedWords, '\x00' ∉ w.toList := by decide
  have hargv := (Command.mem_argv_forAgent_iff hfixed).mpr hnul
  have hspawn : (platform accounts).spawn ⟨.forAgent spec, account⟩ h = _ :=
    platform_spawn_of_nul hargv
  rw [launch_of_resolved (p := { platform accounts with resolve := lookup }) haccount]
  simp only [hspawn]
  rfl

/-- No account has a name with a NUL, so that nothing is asked of the spawner. -/
theorem launch_of_nul_user (hnul : '\x00' ∈ spec.runAsUser.toList) (seen : List Request) :
    launch (platform accounts).watched now spec (h, seen) =
      ⟨(.error ⟨"Unknown user: " ++ spec.runAsUser⟩, h, seen),
        [.accountUnresolved spec.runAsUser (.unknownUser spec.runAsUser)]⟩ := by
  have hresolve : (platform accounts).watched.resolve spec.runAsUser =
      pure (.error (.unknownUser spec.runAsUser)) := by
    change resolve accounts spec.runAsUser = _
    rw [resolve, if_pos (SpawnPlan.hasNul_iff.mpr hnul)]
  have hvalue : ((platform accounts).watched.resolve spec.runAsUser).value =
      .error (.unknownUser spec.runAsUser) := by
    rw [hresolve]
    rfl
  rw [launch_of_unresolved hvalue, hresolve]
  rfl

end Launch

/-- What a machine starts has the words of the request as they are, with nothing connected, in a
group of its own and under the account as far as the caller does not have it. With a NUL in a word,
or in the spec of an agent, nothing is started at all. -/
theorem verbatim_or_refused (accounts : AccountTable) (h : Host) :
    (∀ r, Conduct h r) ∧
    (∀ (lookup : String → Logged (Except LookupError Account)) (now : Int) (spec : Spec)
      (account : Account), (lookup spec.runAsUser).value = .ok account →
      (∃ f, f ≠ .runAsUser ∧ '\x00' ∈ (spec.get f).toList) →
      (launch { platform accounts with resolve := lookup } now spec h).value =
        (.error ⟨"IO error: " ++ (Layout.binary spec.installRoot spec.version ++
          ": nul byte found in provided data")⟩, h)) ∧
    ∀ (now : Int) (spec : Spec) (seen : List Request), '\x00' ∈ spec.runAsUser.toList →
      launch (platform accounts).watched now spec (h, seen) =
        ⟨(.error ⟨"Unknown user: " ++ spec.runAsUser⟩, h, seen),
          [.accountUnresolved spec.runAsUser (.unknownUser spec.runAsUser)]⟩ := by
  refine ⟨conduct h, ?_, ?_⟩
  · intro lookup now spec account haccount hnul
    exact launch_of_nul haccount hnul
  · intro now spec seen hnul
    exact launch_of_nul_user hnul seen

theorem verbatim_or_refused_sample :
    let h := Host.fresh ⟨[], none⟩ "/"
    let r : Request := ⟨⟨"/bin/sh", ["-c", "echo \"$(id)\" ; 'é'", ""]⟩, ⟨"root", 0, 0⟩⟩
    let spec : Spec := ⟨"/opt", "1.4.0", "cygnus.conf", "a\x00b", "root"⟩
    (SpawnPlan.ofRequest h.caller r).program :: (SpawnPlan.ofRequest h.caller r).args =
      ["/bin/sh", "-c", "echo \"$(id)\" ; 'é'", ""] ∧
    (launch { platform systemAccounts with
        resolve := fun name => pure (AccountTable.superuser.resolve name) } 0 spec h).value =
      (.error ⟨"IO error: /opt/apache-flume-1.4.0-bin/bin/flume-ng: " ++
        "nul byte found in provided data"⟩, h) ∧
    launch (platform systemAccounts).watched 0 { spec with runAsUser := "\x00" } (h, []) =
      ⟨(.error ⟨"Unknown user: \x00"⟩, h, []),
        [.accountUnresolved "\x00" (.unknownUser "\x00")]⟩ := by
  intro h r spec
  obtain ⟨hconduct, hlaunch, huser⟩ := verbatim_or_refused systemAccounts h
  refine ⟨(hconduct r).verbatim.mpr (by decide), ?_, huser 0 _ [] (by decide)⟩
  exact hlaunch _ 0 spec ⟨"root", 0, 0⟩ rfl ⟨.agentName, by decide, by decide⟩

end Host

end AgentLaunch
