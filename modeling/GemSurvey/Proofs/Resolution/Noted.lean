import GemSurvey.Resolution.Library
import GemSurvey.Resolution.Requirement

/-! Problems are only noted. Whatever was noted before, an answer is the same, and all that comes
after but the problems themselves, which stand before what is noted on the way. -/
namespace GemSurvey

def Session.after (noted : List Diagnostic) (s : Session) : Session :=
  { s with problems := noted ++ s.problems }

variable (noted : List Diagnostic) (s : Session) (tools : Tools)

namespace Session

@[simp] theorem afterVersions : (s.after noted).versions = s.versions := rfl

@[simp] theorem afterLibraries : (s.after noted).libraries = s.libraries := rfl

@[simp] theorem afterRequirements : (s.after noted).requirements = s.requirements := rfl

theorem reportAfter (problem : Diagnostic) :
    (s.after noted).report problem = (s.report problem).after noted := by
  simp [after, report]

theorem runAfter (program : Text) (arguments : List Text) :
    (s.after noted).run tools program arguments =
      ((s.run tools program arguments).1, (s.run tools program arguments).2.after noted) := rfl

theorem recordAfter (r : Record) : (s.after noted).record r = (s.record r).map (after noted) := by
  unfold record
  rw [afterVersions]
  cases s.versions.record r <;> rfl

end Session

theorem Library.locatedAfter (name : Text) :
    located (s.after noted) tools name =
      ((located s tools name).1, (located s tools name).2.after noted) := by
  simp only [located, Session.locate, Session.after]
  cases tools.locate s.calls name with
  | ok place => rfl
  | error cause => simp [Session.report]

theorem Library.resolveAfter (package name : Text) :
    resolve package tools name (s.after noted) =
      ((resolve package tools name s).1, (resolve package tools name s).2.after noted) := by
  unfold resolve
  split
  · rfl
  · rw [Session.afterLibraries]
    cases s.libraries.lookup name with
    | some known => rfl
    | none =>
      simp only [locatedAfter, Session.recordAfter]
      cases (located s tools name).2.record (ofLocated name (located s tools name).1).toRecord <;>
        rfl

namespace Requirement

theorem probeVersionAfter (command : Text) :
    probeVersion tools command (s.after noted) =
      ((probeVersion tools command s).1, (probeVersion tools command s).2.after noted) := by
  simp only [probeVersion, Session.runAfter]
  split <;> rfl

theorem probeAfter (which command : Text) :
    probe tools which command (s.after noted) =
      ((probe tools which command s).1, (probe tools which command s).2.after noted) := by
  simp only [probe, Session.runAfter, probeVersionAfter]
  split <;> rfl

theorem resolveAfter (which command : Text) :
    resolve tools which command (s.after noted) =
      ((resolve tools which command s).1, (resolve tools which command s).2.after noted) := by
  unfold resolve
  rw [Session.afterRequirements, Session.afterVersions]
  cases s.requirements.lookup command with
  | some known => rfl
  | none => cases s.versions.get? (commandKey command) with
    | some held => rfl
    | none =>
      simp only [probeAfter, Session.recordAfter]
      cases (probe tools which command s).2.record (probe tools which command s).1 <;> rfl

end Requirement
end GemSurvey
