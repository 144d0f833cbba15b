import GemSurvey.Proofs.Ledger
import GemSurvey.Resolution.Requirement

/-! What can come of a command, and what each outcome leaves behind. A probe only asks, so a
command that is not in the ledger can be recorded there without a conflict. -/
namespace GemSurvey.Requirement

section Probing
variable (tools : Tools) (which command : Text) (s : Session)

theorem probeVersionAsks :
    ∃ asked, (probeVersion tools command s).2 = { s with calls := s.calls ++ asked } := by
  unfold probeVersion
  simp only [Session.run]
  split
  · exact ⟨_, rfl⟩
  · exact ⟨_, by rw [← List.append_assoc]⟩

theorem probeVersionPast :
    (probeVersion tools command s).1 = (probeVersion tools command { calls := s.calls }).1 := by
  unfold probeVersion
  simp only [Session.run]
  cases Text.firstLine? (stdoutOf (tools.run s.calls command ["--version"])) <;> rfl

theorem probeAsks :
    ∃ asked, (probe tools which command s).2 = { s with calls := s.calls ++ asked } := by
  by_cases present : succeeded (tools.run s.calls which [command])
  · obtain ⟨asked, same⟩ := probeVersionAsks tools command
      { s with calls := s.calls ++ [.run which [command]] }
    exact ⟨.run which [command] :: asked, by
      simpa only [probe, Session.run, present, if_true, List.append_assoc, List.singleton_append]
        using same⟩
  · exact ⟨[.run which [command]], by simp [probe, Session.run, present]⟩

@[simp] theorem probeVersions : (probe tools which command s).2.versions = s.versions := by
  obtain ⟨_, same⟩ := probeAsks tools which command s
  rw [same]

@[simp] theorem probeLibraries : (probe tools which command s).2.libraries = s.libraries := by
  obtain ⟨_, same⟩ := probeAsks tools which command s
  rw [same]

@[simp] theorem probeRequirements :
    (probe tools which command s).2.requirements = s.requirements := by
  obtain ⟨_, same⟩ := probeAsks tools which command s
  rw [same]

def versionAt? (past : List Call) : Option Text :=
  (probe tools which command { calls := past }).1.version

theorem probeRecord :
    (probe tools which command s).1 = probed command (versionAt? tools which command s.calls) := by
  by_cases present : succeeded (tools.run s.calls which [command])
  · have version : versionAt? tools which command s.calls = (probeVersion tools command
        { calls := s.calls ++ [.run which [command]] }).1 := by
      simp [versionAt?, probe, Session.run, present, probed]
    rw [version, ← probeVersionPast tools command { s with calls := _ }]
    simp [probe, Session.run, present]
  · simp [versionAt?, probe, Session.run, present, probed]

end Probing

def settle (fallbackVersion : Option Text) (command : Text) : Option Text → Requirement
  | some version => ⟨command, some version⟩
  | none => ⟨fallback, fallbackVersion⟩

theorem ofVersionSettled {s : Session} {fallbackVersion : Option Text}
    (seeded : s.versions.version? (commandKey fallback) = fallbackVersion) (command version) :
    ofVersion s command version = settle fallbackVersion command version := by
  cases version <;> simp [ofVersion, settle, seeded]

theorem settleVersion {fallbackVersion command version} (other : command ≠ fallback) :
    (if (settle fallbackVersion command version).label = command then
      (settle fallbackVersion command version).version else none) = version := by
  cases version with
  | none => simp [settle, other.symm]
  | some v => simp [settle]

inductive Resolved (tools : Tools) (which command : Text) (s : Session) :
    Except Conflict Requirement × Session → Prop where
  | known {found} (memo : s.requirements.lookup command = some found) :
      Resolved tools which command s (.ok found, s)
  | held {record} (fresh : s.requirements.lookup command = none)
      (there : s.versions.get? (commandKey command) = some record) :
      Resolved tools which command s (.ok (ofVersion s command record.version),
        remember command (ofVersion s command record.version) s)
  | probed {versions after} (fresh : s.requirements.lookup command = none)
      (absent : s.versions.get? (commandKey command) = none)
      (records : ∀ x, x ∈ versions.records ↔
        x = probed command (versionAt? tools which command s.calls) ∨ x ∈ s.versions.records)
      (same : after = { (probe tools which command s).2 with versions := versions }) :
      Resolved tools which command s
        (.ok (ofVersion after command (versionAt? tools which command s.calls)),
          remember command (ofVersion after command (versionAt? tools which command s.calls)) after)

theorem resolved (tools : Tools) (which command : Text) (s : Session) :
    Resolved tools which command s (resolve tools which command s) := by
  unfold resolve
  split
  · exact .known (by assumption)
  · rename_i fresh
    split
    · exact .held fresh (by assumption)
    · rename_i absent
      obtain ⟨versions, kept, records⟩ := Ledger.recordFresh
        (r := Requirement.probed command (versionAt? tools which command s.calls)) absent
      simp only [Session.record, probeRecord, probeVersions, kept, Except.map]
      exact .probed fresh absent records rfl

end GemSurvey.Requirement
