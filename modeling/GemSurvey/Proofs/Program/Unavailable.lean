import GemSurvey.Proofs.Program.Describe

/-! Runs that git fails. A run that cannot learn from git where its work tree is, or what is
tracked in it, prints nothing and leaves the tree as it was. Its code tells of git only where git
was there to refuse, and knew the place for no repository. -/
namespace GemSurvey

inductive Failing where
  | unstarted (cause : IoFault)
  | refused (stderr : Text)
  deriving DecidableEq, Repr

namespace Failing

def ofAnswer? (answer : Except IoFault Output) : Option Failing :=
  match answer with
  | .error cause => some (.unstarted cause)
  | .ok o => if o.success then none else some (.refused o.stderr)

def unlocated (start : Path) : Failing → Fault
  | unstarted cause => .ofIo "Failed to execute git rev-parse" cause
  | refused stderr =>
      if Text.occursIn "not a git repository" stderr then .git (.notRepository start)
      else .ofText ("Failed to open git repository: " ++ stderr)

def unlisted : Failing → Fault
  | unstarted cause => .ofIo "Failed to execute git ls-files" cause
  | refused stderr => .git (.commandFailed "git ls-files" stderr)

def locatingCode : Failing → Nat
  | unstarted _ => 73
  | refused stderr => if Text.occursIn "not a git repository" stderr then 69 else 65

def listingCode : Failing → Nat
  | unstarted _ => 73
  | refused _ => 69

theorem ofAnswerIff {answer : Except IoFault Output} {f : Failing} : ofAnswer? answer = some f ↔
    (∃ cause, answer = .error cause ∧ f = .unstarted cause) ∨
    ∃ o, answer = .ok o ∧ o.success = false ∧ f = .refused o.stderr := by
  constructor
  · intro failing
    cases answer with
    | error cause => exact .inl ⟨cause, rfl, (Option.some.inj failing).symm⟩
    | ok o =>
      cases success : o.success with
      | true => simp [ofAnswer?, success] at failing
      | false =>
        simp only [ofAnswer?, success, Bool.false_eq_true, if_false] at failing
        exact .inr ⟨o, rfl, success, (Option.some.inj failing).symm⟩
  · rintro (⟨cause, rfl, rfl⟩ | ⟨o, rfl, refused, rfl⟩)
    · rfl
    · simp [ofAnswer?, refused]

theorem unlocatedCode (start : Path) (f : Failing) :
    (f.unlocated start).exitCode = f.locatingCode := by
  cases f with
  | unstarted cause => rfl
  | refused stderr =>
    simp only [unlocated, locatingCode]
    split <;> rfl

theorem unlistedCode (context : Text) (f : Failing) :
    (f.unlisted.withContext context).exitCode = f.listingCode := by
  cases f <;> rfl

end Failing

namespace Git

def locating (run : Text → List Text → Except IoFault Output) (start : Path) :
    Except IoFault Output := ask run ["-C", start.text, "rev-parse", "--show-toplevel"]

def listing (git : Git) : Except IoFault Output := git.atRoot ["ls-files"]

theorem openAtFailing {run : Text → List Text → Except IoFault Output} {start : Path} {f : Failing}
    (fails : Failing.ofAnswer? (locating run start) = some f) :
    openAt run start = .error (f.unlocated start) := by
  unfold openAt
  rcases Failing.ofAnswerIff.mp fails with ⟨cause, answer, rfl⟩ | ⟨o, answer, refused, rfl⟩
  · rw [show ask run _ = _ from answer]
    rfl
  · rw [show ask run _ = _ from answer]
    simp only [refused, Bool.false_eq_true, if_false, Failing.unlocated]
    split <;> rfl

theorem trackedFailing {git : Git} {f : Failing}
    (fails : Failing.ofAnswer? git.listing = some f) : git.tracked = .error f.unlisted := by
  unfold tracked query
  rcases Failing.ofAnswerIff.mp fails with ⟨cause, answer, rfl⟩ | ⟨o, answer, refused, rfl⟩
  · rw [show git.atRoot _ = _ from answer]
    rfl
  · rw [show git.atRoot _ = _ from answer]
    simp only [refused, Bool.false_eq_true, if_false]
    rfl

end Git

namespace Program
open CommandLine (Invocation CommandName)

section
variable {world : World} {i : Invocation} {w : Workspace} {fault : Fault}

def Lists (world : World) (w : Workspace) : CommandName → Prop
  | .files | .dependencies => True
  | .gemspec => ∃ project, Project.load w world.tree world.today = .ok project
  | .info => False

theorem performUnlisted (unlisted : w.git.tracked = .error fault)
    (lists : Lists world w i.command) :
    ∃ entries, perform world.tree world.today w i =
      failed world.tree entries (fault.withContext "Failed to list tracked files") := by
  have surveyed : (w.survey world.tree).result =
      .error (fault.withContext "Failed to list tracked files") := by
    unfold Workspace.survey
    rw [unlisted]
    rfl
  unfold perform
  cases command : i.command with
  | files =>
    have sources : w.sources world.tree =
        .error (fault.withContext "Failed to list tracked files") := by
      unfold Workspace.sources
      rw [unlisted]
      rfl
    simp only [listFiles, sources]
    exact ⟨[], rfl⟩
  | dependencies =>
    simp only [listDependencies, surveyed]
    exact ⟨_, rfl⟩
  | gemspec =>
    rw [command] at lists
    obtain ⟨project, loaded⟩ := lists
    obtain ⟨entries, said, same⟩ := describeContent world.tree world.today w i.flag
    simp only [content, loaded, surveyed, bind, Except.bind] at same
    exact ⟨entries, same⟩
  | info =>
    rw [command] at lists
    exact lists.elim

/-- A run that fails: nothing is printed or written, and the fault is told last of all. -/
structure Fails (world : World) (r : Result) (fault : Fault) : Prop where
  code : r.code = fault.exitCode
  stdout : r.stdout = []
  tree : r.tree = world.tree
  told : ∃ said, r.stderr = said ++ complaint fault

theorem invokeTold (world : World) (i : Invocation) :
    ∃ said, (invoke world i).stderr = said ++ complaintOf (invoke world i).fault := by
  simp only [invoke]
  split
  · exact ⟨[], rfl⟩
  · exact ⟨_, rfl⟩

theorem invokeFails (ended : (invoke world i).fault = some fault ∧ (invoke world i).stdout = [] ∧
    (invoke world i).tree = world.tree) : Fails world (invoke world i) fault where
  code := by
    rw [invokeCode, ended.1]
    rfl
  stdout := ended.2.1
  tree := ended.2.2
  told := by
    obtain ⟨said, told⟩ := invokeTold world i
    rw [ended.1] at told
    exact ⟨said, told⟩

theorem performedFails (found : opened world i.directory = .ok w) {entries : List Log.Entry}
    (fails : perform world.tree world.today w i = failed world.tree entries fault) :
    Fails world (invoke world i) fault := by
  have ended := invokeOpened found
  rw [fails] at ended
  exact invokeFails ended

end

def start (world : World) (directory : Option Text) : Path :=
  (directory.map Path.mk).getD world.currentPath

structure TellsOfGit (world : World) (i : Invocation) : Prop where
  unlocated : ∀ f, Failing.ofAnswer? (Git.locating world.run (start world i.directory)) = some f →
    Fails world (invoke world i) (f.unlocated (start world i.directory)) ∧
    (invoke world i).code = f.locatingCode
  unlisted : ∀ w f, opened world i.directory = .ok w → Lists world w i.command →
    Failing.ofAnswer? w.git.listing = some f →
    Fails world (invoke world i) (f.unlisted.withContext "Failed to list tracked files") ∧
    (invoke world i).code = f.listingCode

theorem gitFailing (world : World) (i : Invocation) : TellsOfGit world i where
  unlocated f fails := by
    have unopened : Workspace.openAt world (start world i.directory) =
        .error (f.unlocated (start world i.directory)) := by
      simp only [Workspace.openAt, Git.openAtFailing fails, bind, Except.bind]
    have ended := invokeFails (invokeUnopened unopened)
    exact ⟨ended, by rw [ended.code, Failing.unlocatedCode]⟩
  unlisted w f found lists fails := by
    obtain ⟨entries, performed⟩ := performUnlisted (Git.trackedFailing fails) lists
    have ended := performedFails found performed
    exact ⟨ended, by rw [ended.code, Failing.unlistedCode]⟩

end Program

namespace Sample

def refusing (asked stderr : String) : World :=
  worldWhere asked (.ok ⟨[], Text.encode stderr.toList, false⟩)

def corrupt : World := refusing "ls-files" "fatal: index file corrupt\n"

def dubious : World :=
  refusing "--show-toplevel" "fatal: detected dubious ownership in repository at '/w'\n"

end Sample

namespace Program

theorem dubiousRefused :
    Failing.ofAnswer? (Git.locating Sample.dubious.run (start Sample.dubious none)) =
      some (.refused "fatal: detected dubious ownership in repository at '/w'\n") := by
  decide +kernel

theorem sampleTells :
    (invoke Sample.corrupt ⟨.files, false, 0, none⟩).code = 69 ∧
    Fails Sample.corrupt (invoke Sample.corrupt ⟨.files, false, 0, none⟩)
      (.git (.commandFailed "git ls-files" "fatal: index file corrupt\n")) ∧
    (invoke Sample.dubious ⟨.gemspec, false, 0, none⟩).code = 65 ∧
    (invoke Sample.dubious ⟨.gemspec, false, 0, none⟩).tree = Sample.dubious.tree := by
  have asked : (opened Sample.corrupt none).map (fun w => Failing.ofAnswer? w.git.listing) =
      .ok (some (.refused "fatal: index file corrupt\n")) := by
    decide +kernel
  obtain ⟨w, found, refused⟩ := okMapped asked
  obtain ⟨fails, code⟩ :=
    (gitFailing Sample.corrupt ⟨.files, false, 0, none⟩).unlisted w _ found trivial refused
  obtain ⟨fails', code'⟩ :=
    (gitFailing Sample.dubious ⟨.gemspec, false, 0, none⟩).unlocated _ dubiousRefused
  exact ⟨code, fails, code', fails'.tree⟩

theorem toldOtherwise : ¬ ∀ (world : World) (i : CommandLine.Invocation) (f : Failing),
    Failing.ofAnswer? (Git.locating world.run (start world i.directory)) = some f →
    (invoke world i).code = 69 := by
  intro always
  have code : (invoke Sample.dubious ⟨.files, false, 0, none⟩).code = 65 := by
    decide +kernel
  have told := always Sample.dubious ⟨.files, false, 0, none⟩ _ dubiousRefused
  rw [code] at told
  nomatch told

end Program
end GemSurvey
