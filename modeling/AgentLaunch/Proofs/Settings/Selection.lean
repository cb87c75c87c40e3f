import Mathlib
import AgentLaunch.Proofs.Bind
import AgentLaunch.Settings.Load

/-!
# The settings file that counts

A path leads to a settings file that can be read, or it does not. A file that was asked for has to
be there; the user's own may be missing, and then it is as if there were none. What can be read has
to be TOML in either case, and no other file matters.
-/

namespace AgentLaunch

/-- What is encoded text is the encoding of that text. -/
theorem fromUTF8?_eq_some_iff {contents : ByteArray} {text : String} :
    String.fromUTF8? contents = some text ↔ contents = text.toUTF8 := by
  unfold String.fromUTF8?
  constructor
  · intro h
    split at h
    next hvalid =>
      cases h
      rfl
    · cases h
  · rintro rfl
    simp [String.isValidUTF8, String.fromUTF8]

namespace Settings

/-- A path leads to a file with a text: to the file of this very name, if it has the ending, or to
the one with the ending appended, if there is no file of the very name. -/
inductive Reads (fs : FileSystem) (path : String) : String → String → Prop where
  | exact {text : String} (there : fs.read (fs.absolute path) = .contents text.toUTF8)
      (ends : (Path.fileName? (fs.absolute path)).map hasEnding = some true) :
      Reads fs path (fs.absolute path) text
  | appended {longer text : String} (missing : fs.read (fs.absolute path) = .missing)
      (longer_eq : Path.appendEnding? ending (fs.absolute path) = some longer)
      (there : fs.read longer = .contents text.toUTF8) : Reads fs path longer text

section Find

variable {fs fs' : FileSystem} {path : String} {bindings : List (String × String)} {r : Reading}

theorem isFile_eq_false_iff {p : String} : fs.isFile p = false ↔ fs.read p = .missing := by
  unfold FileSystem.isFile
  cases fs.read p <;> simp

theorem isFile_of_contents {p : String} {bytes : ByteArray} (h : fs.read p = .contents bytes) :
    fs.isFile p = true := by
  rw [FileSystem.isFile, h]

theorem locate_of_isFile (h : fs.isFile (fs.absolute path) = true) : locate fs path =
    if (Path.fileName? (fs.absolute path)).map hasEnding = some true then .ok (fs.absolute path)
    else .error (.unregistered (fs.absolute path)) := by
  simp only [locate, h, if_true]
  cases (Path.fileName? (fs.absolute path)).map hasEnding with
  | none => rfl
  | some ends => cases ends <;> rfl

theorem locate_of_not_isFile (h : fs.isFile (fs.absolute path) = false) : locate fs path =
    match Path.appendEnding? ending (fs.absolute path) with
    | some longer => if fs.isFile longer then .ok longer else .error (.notFound path)
    | none => .error (.notFound path) := by
  rw [locate]
  exact if_neg (ne_true_of_eq_false h)

theorem locate_eq_ok_iff {found : String} : locate fs path = .ok found ↔
    (fs.isFile (fs.absolute path) = true ∧ found = fs.absolute path ∧
      (Path.fileName? (fs.absolute path)).map hasEnding = some true) ∨
    (fs.isFile (fs.absolute path) = false ∧
      Path.appendEnding? ending (fs.absolute path) = some found ∧ fs.isFile found = true) := by
  cases hexact : fs.isFile (fs.absolute path) with
  | true =>
    rw [locate_of_isFile hexact]
    split
    next hends =>
      refine ⟨fun h => .inl ⟨rfl, (Except.ok.inj h).symm, hends⟩, ?_⟩
      rintro (⟨-, h, -⟩ | ⟨h, -⟩)
      · rw [h]
      · cases h
    next hends =>
      refine iff_of_false nofun ?_
      rintro (⟨-, -, h⟩ | ⟨h, -⟩)
      · exact hends h
      · cases h
  | false =>
    rw [locate_of_not_isFile hexact]
    cases Path.appendEnding? ending (fs.absolute path) with
    | none => simp
    | some longer =>
      dsimp only
      split
      next hfile =>
        refine ⟨fun h => ?_, ?_⟩
        · cases h
          exact .inr ⟨rfl, rfl, hfile⟩
        · rintro (⟨h, -⟩ | ⟨-, h, -⟩)
          · cases h
          · exact congrArg _ (Option.some.inj h)
      next hfile =>
        refine iff_of_false nofun ?_
        rintro (⟨h, -⟩ | ⟨-, h, hfound⟩)
        · cases h
        · cases h
          exact hfile hfound

/-- A file is found and is text exactly if the path leads to it. -/
theorem findText_eq_ok_iff {found text : String} :
    findText fs path = .ok (found, text) ↔ Reads fs path found text := by
  constructor
  · intro h
    obtain ⟨found', hlocate, htext⟩ := exists_of_bind_ok h
    split at htext
    · cases htext
    · cases htext
    next bytes hbytes =>
      split at htext
      next text' hdecoded =>
        cases htext
        cases fromUTF8?_eq_some_iff.mp hdecoded
        obtain ⟨-, rfl, hends⟩ | ⟨hmissing, hlonger, -⟩ := locate_eq_ok_iff.mp hlocate
        · exact .exact hbytes hends
        · exact .appended (isFile_eq_false_iff.mp hmissing) hlonger hbytes
      · cases htext
  · intro h
    have hfound : locate fs path = .ok found ∧ fs.read found = .contents text.toUTF8 := by
      cases h with
      | exact there ends =>
        exact ⟨locate_eq_ok_iff.mpr (.inl ⟨isFile_of_contents there, rfl, ends⟩), there⟩
      | appended missing longer_eq there =>
        exact ⟨locate_eq_ok_iff.mpr (.inr ⟨isFile_eq_false_iff.mpr missing, longer_eq,
          isFile_of_contents there⟩), there⟩
    rw [findText, hfound.1, ok_bind]
    simp only [hfound.2, fromUTF8?_eq_some_iff.mpr rfl]
    rfl

/-- What a file gives is what its text says. -/
theorem fileEntries_of_reads {found text : String} {required : Bool}
    {document : List (String × Toml.Value)} (h : Reads fs path found text)
    (htoml : Toml.Document.read? text = some document) :
    fileEntries fs (some ⟨path, required⟩) =
      .ok (Tree.ofEntries (Path.relativeTo fs.workingDirectory found) document) := by
  rw [fileEntries, File.entries, findText_eq_ok_iff.mpr h]
  simp only [parse, htoml]
  rfl

theorem breakage?_of_findText {e : SourceError} (h : findText fs path = .error e) :
    (LoadError.file e).breakage? = none := by
  obtain hlocate | ⟨found, -, h⟩ := exists_of_bind_error h
  · cases hexact : fs.isFile (fs.absolute path) with
    | true =>
      rw [locate_of_isFile hexact] at hlocate
      split at hlocate <;> cases hlocate
      rfl
    | false =>
      rw [locate_of_not_isFile hexact] at hlocate
      split at hlocate
      · split at hlocate <;> cases hlocate
        rfl
      · cases hlocate
        rfl
  · split at h
    · cases h
      rfl
    · cases h
      rfl
    · split at h <;> cases h
      rfl

/-- Looking for a file and reading it does not break the run off. -/
theorem breakage?_of_fileEntries {file : Option File} {e : LoadError}
    (h : fileEntries fs file = .error e) : e.breakage? = none := by
  cases file with
  | none => cases h
  | some file =>
    rw [fileEntries, File.entries] at h
    split at h
    · rw [parse] at h
      split at h <;> cases h
      rfl
    next e' hfind =>
      split at h <;> cases h
      exact breakage?_of_findText hfind

theorem exists_findText_error (h : ¬ ∃ found text, Reads fs path found text) :
    ∃ e, findText fs path = .error e ∧ (LoadError.file e).breakage? = none := by
  cases hfind : findText fs path with
  | error e => exact ⟨e, rfl, breakage?_of_findText hfind⟩
  | ok out => exact absurd ⟨out.1, out.2, findText_eq_ok_iff.mp hfind⟩ h

/-- A file that was asked for has to be there. -/
theorem build_required_of_not_reads (h : ¬ ∃ found text, Reads fs path found text) :
    ∃ e, build fs (some ⟨path, true⟩) bindings r = .error (.file e) ∧
      (LoadError.file e).breakage? = none := by
  obtain ⟨e, he, hwhole⟩ := exists_findText_error h
  refine ⟨e, ?_, hwhole⟩
  rw [build, fileEntries, File.entries, he]
  rfl

/-- A file that nobody asked for may be missing. -/
theorem build_optional_of_not_reads (h : ¬ ∃ found text, Reads fs path found text) :
    build fs (some ⟨path, false⟩) bindings r = build fs none bindings r := by
  obtain ⟨e, he, -⟩ := exists_findText_error h
  rw [build, fileEntries, File.entries, he]
  rfl

/-- A file that can be read has to be TOML. -/
theorem build_of_not_toml {found text : String} {required : Bool} (h : Reads fs path found text)
    (htoml : Toml.Document.read? text = none) : build fs (some ⟨path, required⟩) bindings r =
      .error (.file (.notToml (Path.relativeTo fs.workingDirectory found))) := by
  rw [build, fileEntries, File.entries, findText_eq_ok_iff.mpr h]
  simp only [parse, htoml]
  rfl

/-- Only the places where a file is looked for matter. -/
theorem build_congr {required : Bool} (hdirectory : fs'.workingDirectory = fs.workingDirectory)
    (hread : ∀ p ∈ candidates fs.workingDirectory path, fs'.read p = fs.read p) :
    build fs' (some ⟨path, required⟩) bindings r = build fs (some ⟨path, required⟩) bindings r := by
  have habsolute : fs'.absolute path = fs.absolute path := by
    rw [FileSystem.absolute, FileSystem.absolute, hdirectory]
  have hisFile : ∀ p ∈ candidates fs.workingDirectory path, fs'.isFile p = fs.isFile p :=
    fun p hp => by rw [FileSystem.isFile, FileSystem.isFile, hread p hp]
  have hlonger : ∀ longer, Path.appendEnding? ending (fs.absolute path) = some longer →
      longer ∈ candidates fs.workingDirectory path := by
    intro longer hlonger
    exact List.mem_cons_of_mem _ (Option.mem_toList.mpr hlonger)
  have hlocate : locate fs' path = locate fs path := by
    have hexact : fs'.isFile (fs.absolute path) = fs.isFile (fs.absolute path) :=
      hisFile _ List.mem_cons_self
    simp only [locate, habsolute, hexact]
    split
    · rfl
    · cases hname : Path.appendEnding? ending (fs.absolute path) with
      | none => rfl
      | some longer => simp only [hisFile longer (hlonger longer hname)]
  have hfind : findText fs' path = findText fs path := by
    rw [findText, findText, hlocate]
    cases hfound : locate fs path with
    | error e => rfl
    | ok found =>
      have hmem : found ∈ candidates fs.workingDirectory path := by
        obtain ⟨-, rfl, -⟩ | ⟨-, hname, -⟩ := locate_eq_ok_iff.mp hfound
        · exact List.mem_cons_self
        · exact hlonger found hname
      rw [ok_bind, ok_bind, hread found hmem]
  simp only [build, fileEntries, File.entries, hfind, parse, hdirectory]

end Find

end Settings

end AgentLaunch
