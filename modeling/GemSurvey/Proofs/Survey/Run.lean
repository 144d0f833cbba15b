import GemSurvey.Proofs.Survey.Course

/-! A whole survey: from the seeded ledger over all that the selected files emit. A report sums
up the answers to all references. -/
namespace GemSurvey
namespace Subject

def items (subject : Subject) (tracked : List Path) : List Emitted :=
  (Selection.files (subject.select tracked)).flatMap subject.emitted

def references (subject : Subject) (tracked : List Path) : List Reference :=
  (subject.items tracked).filterMap Emitted.reference?

def start (subject : Subject) : Survey.State where
  session := (Requirement.seed subject.scan.requirement? {}).2

def answers (subject : Subject) (tools : Tools) (which : Text) (tracked : List Path) :
    List Answered :=
  Survey.answers subject.package tools which (subject.items tracked) subject.start

end Subject

namespace Survey

theorem startAccounted (subject : Subject) (tools : Tools) (which : Text) :
    Accounted subject.package tools which subject.scan.requirement? [] subject.start where
  session := {
    records := by simp [Subject.start, Requirement.seed, Session.record, Ledger.record,
      Ledger.empty, Ledger.get?, Ledger.place, Except.map]
    justified := by simp
    libraries := fun _ _ found => by cases found
    requirements := fun _ _ found => by cases found }
  buckets := rfl

theorem runCourse (subject : Subject) (tools : Tools) (which : Text) (tracked : List Path) :
    run subject tools which (.ok tracked) =
      match takeAll subject.package tools which (subject.items tracked) subject.start with
      | (.error conflict, final) =>
          ⟨.error conflict.fault, some (subject.select tracked), final.session⟩
      | (.ok (), final) =>
          ⟨.ok (summarise (subject.select tracked) final), some (subject.select tracked),
            final.session⟩ := rfl

theorem runListed (subject : Subject) (tools : Tools) (which : Text) (tracked : List Path) :
    (run subject tools which (.ok tracked)).result =
      match takeAll subject.package tools which (subject.items tracked) subject.start with
      | (.error conflict, _) => .error conflict.fault
      | (.ok (), final) => .ok (summarise (subject.select tracked) final) := by
  rw [runCourse]
  split <;> rfl

theorem runSession (subject : Subject) (tools : Tools) (which : Text) (tracked : List Path) :
    (run subject tools which (.ok tracked)).session =
      (takeAll subject.package tools which (subject.items tracked) subject.start).2.session := by
  rw [runCourse]
  split <;> simp_all

theorem runUnlisted (subject : Subject) (tools : Tools) (which : Text) (fault : Fault) :
    (run subject tools which (.error fault)).result =
      .error (fault.withContext "Failed to list tracked files") := rfl

theorem finished {subject : Subject} {tools : Tools} {which : Text} {tracked : List Path} {report}
    (ok : (run subject tools which (.ok tracked)).result = .ok report) :
    ∃ final,
      takeAll subject.package tools which (subject.items tracked) subject.start =
        (.ok (), final) ∧
      report = summarise (subject.select tracked) final := by
  rw [runListed] at ok
  rcases course : takeAll subject.package tools which (subject.items tracked) subject.start with
    ⟨_ | _, final⟩
  · simp [course] at ok
  · rw [course] at ok
    exact ⟨final, rfl, (Except.ok.inj ok).symm⟩

theorem reported {subject : Subject} {tools : Tools} {which : Text} {tracked : List Path} {report}
    (ok : (run subject tools which (.ok tracked)).result = .ok report) :
    ∃ final, report = summarise (subject.select tracked) final ∧
      Accounted subject.package tools which subject.scan.requirement?
        (subject.answers tools which tracked) final ∧
      (subject.answers tools which tracked).map Answered.reference =
        subject.references tracked := by
  obtain ⟨final, course, same⟩ := finished ok
  exact ⟨final, same, takenAll (startAccounted subject tools which) course⟩

end Survey

/- A gem whose test helper is listed before its library, leads to the same gem by another name,
and is followed by a file that is not there. -/
namespace Sample

def files : List (String × String) := [
  ("/w/test/helper.rb",
    "require 'net/ssh/proxy'\nrequire 'json'\nrequire 'rspec'\n\x60git status\x60\n"),
  ("/w/lib/own.rb",
    "require 'own/version'\nrequire 'net/ssh'\nrequire 'json'\n\x60git log\x60\nsystem 'nope'\n")]

def view : View := fun p =>
  match files.find? fun file => file.1.toList = p.text with
  | some file => .ok (.file (Text.encode file.2.toList) false)
  | none => .error .notFound

def subject : Subject := ⟨view, "/w", "own", {}⟩

def tracked : List Path := ["test/helper.rb", "lib/gone.rb", "lib/own.rb"]

def locate (proxy : String) (name : Text) : Except IoFault Text :=
  if name = ("net/ssh/proxy" : Text) then .ok ("/g/net-ssh-" ++ proxy ++ "/lib/net/ssh/proxy.rb")
  else if name = ("net/ssh" : Text) then .ok "/g/net-ssh-7.2/lib/net/ssh.rb"
  else if name = ("rspec" : Text) then .ok "/g/rspec-3.12.0/lib/rspec.rb"
  else .error .denied

def ask (program : Text) (arguments : List Text) : Except IoFault Output :=
  if program = ("which" : Text) then .ok ⟨[], [], arguments = ["git"]⟩
  else .ok ⟨"git version 2.43.0\n", [], true⟩

def report : Report where
  filesScanned := 3
  versions := [
    ⟨⟨.gem, "net-ssh"⟩, some "7.2", .packageManager⟩,
    ⟨⟨.gem, "rspec"⟩, some "3.12.0", .packageManager⟩,
    ⟨⟨.library, "json"⟩, none, .notFound⟩,
    ⟨⟨.command, "git"⟩, some "git version 2.43.0", .commandProbe⟩,
    ⟨⟨.command, "nope"⟩, none, .notFound⟩,
    ⟨⟨.command, "system"⟩, some "linux/bash", .configured⟩]
  buckets := {
    gems := ⟨⟨["net-ssh"]⟩, ⟨["net-ssh", "rspec"]⟩⟩
    libraries := ⟨⟨["json"]⟩, ⟨["json"]⟩⟩
    commands := ⟨⟨["git", "system"]⟩, ⟨["git"]⟩⟩ }
  declarations := [
    .dependency false "net-ssh" "7.2" "7.2",
    .dependency true "rspec" "3.12" "3.12.0",
    .requirement "git" (some "git version 2.43.0") false,
    .requirement "system" (some "linux/bash") false]
  diagnostics := [
    .general "could not locate 'json': Permission denied (os error 13)",
    .about "lib/gone.rb" "No such file or directory (os error 2)"]

theorem reported : (Survey.run subject (.steady (locate "7.2") ask) "which" (.ok tracked)).result =
    .ok report := by
  decide +kernel

end Sample
end GemSurvey
