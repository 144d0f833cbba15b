import GemSurvey.Survey

/-! What a survey can ask: where names lie, and what a program says to a single word. Tools that
answer such questions alike give the same survey, whatever they say to others. -/
namespace GemSurvey

structure Tools.Alike (tools other : Tools) : Prop where
  locate : ∀ past name, tools.locate past name = other.locate past name
  run : ∀ past program word, tools.run past program [word] = other.run past program [word]

section
variable {tools other : Tools} (alike : tools.Alike other)
include alike

theorem Library.resolveAlike (package name : Text) (s : Session) :
    resolve package tools name s = resolve package other name s := by
  have same : located s tools name = located s other name := by
    simp only [located, Session.locate, alike.locate]
  unfold resolve
  rw [same]

theorem Session.runAlike (program word : Text) (s : Session) :
    s.run tools program [word] = s.run other program [word] := by
  simp only [run, alike.run]

namespace Requirement

theorem probeVersionAlike (command : Text) (s : Session) :
    probeVersion tools command s = probeVersion other command s := by
  simp only [probeVersion, Session.runAlike alike]

theorem probeAlike (which command : Text) (s : Session) :
    probe tools which command s = probe other which command s := by
  simp only [probe, Session.runAlike alike, probeVersionAlike alike]

theorem resolveAlike (which command : Text) (s : Session) :
    resolve tools which command s = resolve other which command s := by
  unfold resolve
  rw [probeAlike alike]

end Requirement

namespace Survey

theorem takeAlike (package which : Text) (e : Emitted) (s : State) :
    take package tools which e s = take package other which e s := by
  cases e with
  | reference r =>
    simp only [take, takeReference]
    rw [Library.resolveAlike alike, Requirement.resolveAlike alike]
  | problem d => rfl

theorem takeAllAlike (package which : Text) (items : List Emitted) (s : State) :
    takeAll package tools which items s = takeAll package other which items s := by
  induction items generalizing s with
  | nil => rfl
  | cons e rest ih =>
    simp only [takeAll]
    rw [takeAlike alike]
    split
    · exact ih _
    · rfl

theorem runAlike (subject : Subject) (which : Text) (tracked : Except Fault (List Path)) :
    run subject tools which tracked = run subject other which tracked := by
  unfold run
  simp only [takeAllAlike alike]

end Survey

end
end GemSurvey
