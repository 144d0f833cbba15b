import GemSurvey.Proofs.Program.Describe
import GemSurvey.Proofs.Survey.Questions
import GemSurvey.Proofs.Text.Trim

/-! What is told of uncommitted changes. Whatever a command comes to, git's entries are told once,
after all else but the complaint, and nothing else depends on them. Of git's lines the first
loses a blank first column, and the last the blanks at its end. -/
namespace GemSurvey

structure StatusEntry where
  index : Char
  workTree : Char
  path : Text
  deriving DecidableEq, Repr

namespace StatusEntry
open Text (isBlank Shows unlines lastTrimmed)

def Formed (e : StatusEntry) : Prop := isBlank e.index = false ∨ isBlank e.workTree = false

instance (e : StatusEntry) : Decidable e.Formed :=
  inferInstanceAs (Decidable (_ ∨ _))

def line (e : StatusEntry) : Text := e.index :: e.workTree :: ' ' :: e.path

def begun (e : StatusEntry) : Text :=
  if isBlank e.index then e.workTree :: ' ' :: e.path else e.line

def told : List StatusEntry → List Text
  | [] => []
  | e :: rest => lastTrimmed (e.begun :: rest.map line)

def heading : Text := "\x1b[1m\x1b[33mUncommitted changes:\x1b[0m\n"

def block (entries : List StatusEntry) : Text :=
  if entries.isEmpty then [] else heading ++ unlines (told entries)

theorem Formed.shows {e : StatusEntry} (formed : e.Formed) : Shows e.line := by
  rcases formed with shows | shows
  · exact ⟨e.index, by simp [line], shows⟩
  · exact ⟨e.workTree, by simp [line], shows⟩

theorem Formed.trimStart {e : StatusEntry} (formed : e.Formed) : Text.trimStart e.line = e.begun := by
  unfold Text.trimStart begun line
  cases blank : isBlank e.index with
  | false => simp [blank]
  | true =>
    have shows : isBlank e.workTree = false := formed.resolve_left (by simp [blank])
    simp [blank, shows]

theorem begunSame {e : StatusEntry} {t : Text} (same : t <+: e.begun) (whole : t = e.line) :
    isBlank e.index = false := by
  cases blank : isBlank e.index with
  | false => rfl
  | true =>
    have short := same.length_le
    simp only [whole, begun, line, blank, if_true, List.length_cons] at short
    omega

theorem toldSame (entries : List StatusEntry) : told entries = entries.map line ↔
    (∀ e ∈ entries.head?, isBlank e.index = false) ∧
    ∀ e ∈ entries.getLast?, ∀ c ∈ e.line.getLast?, isBlank c = false := by
  have last : lastTrimmed (entries.map line) = entries.map line ↔
      ∀ e ∈ entries.getLast?, ∀ c ∈ e.line.getLast?, isBlank c = false := by
    rw [Text.lastTrimmedSame, List.getLast?_map]
    simp
  cases entries with
  | nil => simp [told]
  | cons e rest =>
    cases blank : isBlank e.index with
    | false => simpa [told, begun, blank] using last
    | true =>
      simp only [List.head?_cons, Option.mem_some_iff, forall_eq', blank, Bool.true_eq_false,
        false_and, iff_false]
      intro same
      obtain ⟨first, others, begins, start⟩ := Text.lastTrimmedFirst e.begun (rest.map line)
      rw [told, begins, List.map_cons] at same
      have shown := begunSame start (List.cons.inj same).1
      rw [blank] at shown
      cases shown

end StatusEntry

namespace Git

def AsksStatus (arguments : List Text) : Prop := arguments.drop 4 = ["status", "--porcelain"]

instance (arguments : List Text) : Decidable (AsksStatus arguments) :=
  inferInstanceAs (Decidable (_ = _))

theorem asksOther {a b c d word : Text} {rest : List Text} (other : word ≠ "status") :
    ¬ AsksStatus (a :: b :: c :: d :: word :: rest) := fun asks => other (List.cons.inj asks).1

end Git

def World.committed (world : World) : World :=
  { world with
    ask := fun program arguments =>
      if program = ("git" : Text) ∧ Git.AsksStatus arguments then .ok ⟨[], [], true⟩
      else world.ask program arguments }

@[simp] theorem World.committedTree (world : World) : world.committed.tree = world.tree := rfl

@[simp] theorem World.committedToday (world : World) : world.committed.today = world.today := rfl

theorem World.committedOther (world : World) (program : Text) {arguments : List Text}
    (other : ¬ Git.AsksStatus arguments) :
    world.committed.run program arguments = world.run program arguments := by
  simp only [run, runBy, committed, other, and_false, if_false]

theorem World.committedStatus {world : World} {arguments : List Text} {o : Output}
    (asks : Git.AsksStatus arguments) (answer : world.run "git" arguments = .ok o) :
    world.committed.run "git" arguments = .ok ⟨[], [], true⟩ := by
  unfold run runBy at answer ⊢
  split at answer
  · contradiction
  · rename_i whole
    rw [if_neg whole]
    simp only [committed, asks, and_self, if_true]
    rfl

theorem Git.openAtRun {run : Text → List Text → Except IoFault Output} {start : Path} {git : Git}
    (found : openAt run start = .ok git) : git.run = run := by
  unfold openAt at found
  split at found
  · contradiction
  · split at found
    · cases Except.ok.inj found
      rfl
    · split at found <;> contradiction

theorem Git.openAtCommitted (world : World) (start : Path) :
    openAt world.committed.run start =
      (openAt world.run start).map fun git => { git with run := world.committed.run } := by
  have answer : ask world.committed.run ["-C", start.text, "rev-parse", "--show-toplevel"] =
      ask world.run ["-C", start.text, "rev-parse", "--show-toplevel"] :=
    world.committedOther _ nofun
  unfold openAt
  rw [answer]
  split
  · rfl
  · split
    · rfl
    · split <;> rfl

namespace Workspace

def asking (w : Workspace) (run : Text → List Text → Except IoFault Output) : Workspace :=
  { w with git := { w.git with run := run } }

section
variable {w : Workspace} {run : Text → List Text → Except IoFault Output}
  (alike : ∀ program arguments, ¬ Git.AsksStatus arguments →
    run program arguments = w.git.run program arguments)
include alike

theorem trackedAsking : (w.asking run).git.tracked = w.git.tracked := by
  have answer : (w.asking run).git.atRoot ["ls-files"] = w.git.atRoot ["ls-files"] :=
    alike _ _ (Git.asksOther (by decide +kernel))
  unfold Git.tracked Git.query
  rw [answer]
  rfl

theorem valueAsking (key : Text) : (w.asking run).git.value key = w.git.value key := by
  have answer : (w.asking run).git.atRoot ["config", key] = w.git.atRoot ["config", key] :=
    alike _ _ (Git.asksOther (by decide +kernel))
  unfold Git.value
  rw [answer]

theorem toolsAsking : (w.asking run).tools.Alike w.tools where
  locate past name := by
    have answer : run w.settings.tools.gem ["which", name] =
        w.git.run w.settings.tools.gem ["which", name] := alike _ _ nofun
    show locateBy _ _ _ = locateBy _ _ _
    unfold locateBy
    exact congrArg _ answer
  run past program word := alike _ _ nofun

theorem surveyAsking (tree : Tree) : (w.asking run).survey tree = w.survey tree := by
  unfold survey
  rw [Survey.runAlike (toolsAsking alike), trackedAsking alike]
  rfl

theorem loadAsking (tree : Tree) (today : Text) :
    Project.load (w.asking run) tree today = Project.load w tree today := by
  unfold Project.load Git.userName Git.userEmail
  rw [valueAsking alike, valueAsking alike]
  rfl

theorem performAsking (tree : Tree) (today : Text) (i : CommandLine.Invocation) :
    Program.perform tree today (w.asking run) i = Program.perform tree today w i := by
  -- No command asks for the status: what it rests on is tracked, configured or surveyed.
  unfold Program.perform
  cases i.command with
  | files =>
    simp only [Program.listFiles, sources, trackedAsking alike]
    rfl
  | dependencies => simp only [Program.listDependencies, surveyAsking alike]
  | gemspec =>
    simp only [Program.describe, loadAsking alike, surveyAsking alike, trackedAsking alike]
    rfl
  | info =>
    simp only [Program.showAttributes, loadAsking alike]
    rfl

end

theorem openAtCommitted (world : World) (start : Path) : openAt world.committed start =
    (openAt world start).map fun w => w.asking world.committed.run := by
  simp only [openAt, bind, Except.bind]
  rw [Git.openAtCommitted, World.committedTree]
  cases Git.openAt world.run start with
  | error fault => rfl
  | ok git =>
    simp only [Except.map]
    cases Settings.load world.tree git.workTree with
    | error fault => rfl
    | ok settings =>
      dsimp only
      cases Settings.ignore? settings.scan world.tree git.workTree with
      | error fault => rfl
      | ok ignore =>
        dsimp only
        cases packageName settings git.workTree <;> rfl

theorem openAtRun {world : World} {start : Path} {w : Workspace}
    (found : openAt world start = .ok w) : w.git.run = world.run := by
  simp only [openAt, bind, Except.bind] at found
  split at found
  · contradiction
  rename_i located
  split at found
  · contradiction
  split at found
  · contradiction
  split at found
  · contradiction
  cases Except.ok.inj found
  have answers := Git.openAtRun located
  exact answers

end Workspace

namespace Program
open CommandLine (Invocation)

def said (world : World) (i : Invocation) (effect : Effect) : Text :=
  Log.render world.logFilter i.verbosity effect.entries ++ effect.notes

/-- What a run tells of git's entries: they stand before the complaint, as one block, and the run
is otherwise that of a world where nothing is uncommitted. -/
structure TellsEntries (world : World) (i : Invocation) (entries : List StatusEntry) : Prop where
  code : (invoke world i).code = (invoke world.committed i).code
  fault : (invoke world i).fault = (invoke world.committed i).fault
  stdout : (invoke world i).stdout = (invoke world.committed i).stdout
  tree : (invoke world i).tree = (invoke world.committed i).tree
  once : ∃ before,
    (invoke world i).stderr =
      before ++ StatusEntry.block entries ++ complaintOf (invoke world i).fault ∧
    (invoke world.committed i).stderr = before ++ complaintOf (invoke world i).fault
  lines : StatusEntry.told entries = entries.map StatusEntry.line ↔
    (∀ e ∈ entries.head?, Text.isBlank e.index = false) ∧
    ∀ e ∈ entries.getLast?, ∀ c ∈ e.line.getLast?, Text.isBlank c = false

section
variable {w : Workspace} {o : Output} {entries : List StatusEntry}

theorem uncommittedTold (answer : w.git.atRoot ["status", "--porcelain"] = .ok o)
    (fine : o.success = true) (formed : ∀ e ∈ entries, e.Formed)
    (listed : o.stdout = Text.unlines (entries.map StatusEntry.line)) :
    uncommitted w = StatusEntry.block entries := by
  have status : w.git.status = .ok (Text.trim (Text.unlines (entries.map StatusEntry.line))) := by
    simp only [Git.status, Git.query, answer, fine, if_true, listed, Except.map]
  unfold uncommitted
  rw [status]
  cases entries with
  | nil => rfl
  | cons e rest =>
    have shows : ∀ line ∈ (e :: rest).map StatusEntry.line, Text.Shows line := by
      intro line member
      obtain ⟨entry, listed, rfl⟩ := List.mem_map.mp member
      exact (formed entry listed).shows
    have some : (Text.trim (Text.unlines ((e :: rest).map StatusEntry.line))).isEmpty = false :=
      List.isEmpty_eq_false_iff.mpr
        (Text.showsLines List.mem_cons_self (formed e List.mem_cons_self).shows).trim
    have trimmed := Text.trimLines shows
    rw [(formed e List.mem_cons_self).trimStart] at trimmed
    simp only [some, StatusEntry.block, List.isEmpty_cons, Bool.false_eq_true, if_false]
    rw [StatusEntry.told, ← trimmed, List.append_assoc]
    rfl

theorem invokeStderr {world : World} {i : Invocation} (found : opened world i.directory = .ok w) :
    (invoke world i).stderr = said world i (perform world.tree world.today w i) ++
      uncommitted w ++ complaintOf (invoke world i).fault := by
  unfold opened at found
  simp only [invoke]
  rw [found]
  rfl

theorem entriesTold {world : World} {i : Invocation} (found : opened world i.directory = .ok w)
    (answer : w.git.atRoot ["status", "--porcelain"] = .ok o) (fine : o.success = true)
    (formed : ∀ e ∈ entries, e.Formed)
    (listed : o.stdout = Text.unlines (entries.map StatusEntry.line)) :
    TellsEntries world i entries := by
  have answers : w.git.run = world.run := Workspace.openAtRun found
  have others : opened world.committed i.directory = .ok (w.asking world.committed.run) := by
    have mapped := Workspace.openAtCommitted world ((i.directory.map Path.mk).getD world.currentPath)
    rw [show Workspace.openAt world _ = _ from found] at mapped
    exact mapped
  have same : perform world.tree world.today (w.asking world.committed.run) i =
      perform world.tree world.today w i := by
    refine Workspace.performAsking (fun program arguments other => ?_) _ _ _
    rw [answers]
    exact world.committedOther program other
  have none : uncommitted (w.asking world.committed.run) = [] := by
    rw [show w.git.atRoot _ = world.run _ _ from congrFun (congrFun answers _) _] at answer
    exact @uncommittedTold _ _ [] (World.committedStatus rfl answer) rfl (by simp) rfl
  have ended := invokeOpened found
  have ended' := invokeOpened others
  rw [World.committedTree, World.committedToday, same] at ended'
  have fault : (invoke world i).fault = (invoke world.committed i).fault :=
    ended.1.trans ended'.1.symm
  exact {
    code := by rw [invokeCode, invokeCode, fault]
    fault := fault
    stdout := ended.2.1.trans ended'.2.1.symm
    tree := ended.2.2.trans ended'.2.2.symm
    once := by
      refine ⟨said world i (perform world.tree world.today w i), ?_, ?_⟩
      · rw [invokeStderr found, uncommittedTold answer fine formed listed]
      · rw [invokeStderr others, World.committedTree, World.committedToday, same, none,
          List.append_nil, fault]
        rfl
    lines := StatusEntry.toldSame entries }

end
end Program

namespace Sample

def changed : World :=
  worldWhere "--porcelain" (.ok ⟨Text.encode " M lib/own.rb\n?? notes\n".toList, [], true⟩)

def changes : List StatusEntry := [⟨' ', 'M', "lib/own.rb"⟩, ⟨'?', '?', "notes"⟩]

def listing : Text := " M lib/own.rb\n?? notes\n"

theorem changesListed : listing = Text.unlines (changes.map StatusEntry.line) := by
  decide +kernel

theorem changesFormed : ∀ e ∈ changes, e.Formed := by
  decide +kernel

theorem changedOpened : ∃ w, Program.opened changed none = .ok w ∧
    w.git.atRoot ["status", "--porcelain"] = .ok ⟨listing, [], true⟩ := by
  have answered : (Program.opened changed none).map (fun w =>
      w.git.atRoot ["status", "--porcelain"]) = .ok (.ok ⟨listing, [], true⟩) := by
    decide +kernel
  exact okMapped answered

end Sample

namespace Program

theorem sampleTold : TellsEntries Sample.changed ⟨.files, false, 0, none⟩ Sample.changes := by
  obtain ⟨w, found, answer⟩ := Sample.changedOpened
  exact entriesTold (i := ⟨.files, false, 0, none⟩) found answer rfl Sample.changesFormed
    Sample.changesListed

theorem entriesCut :
    ¬ ∀ (world : World) (i : CommandLine.Invocation) (w : Workspace) (o : Output)
      (entries : List StatusEntry), opened world i.directory = .ok w →
      w.git.atRoot ["status", "--porcelain"] = .ok o → o.success = true →
      (∀ e ∈ entries, e.Formed) → o.stdout = Text.unlines (entries.map StatusEntry.line) →
      entries ≠ [] →
      ∃ before after, (invoke world i).stderr =
        before ++ (StatusEntry.heading ++ Text.unlines (entries.map StatusEntry.line)) ++ after := by
  intro always
  obtain ⟨w, found, answer⟩ := Sample.changedOpened
  obtain ⟨before, after, told⟩ := always Sample.changed ⟨.files, false, 0, none⟩ w _ Sample.changes
    found answer rfl Sample.changesFormed Sample.changesListed (by decide)
  have short : (invoke Sample.changed ⟨.files, false, 0, none⟩).stderr.length <
      (StatusEntry.heading ++ Text.unlines (Sample.changes.map StatusEntry.line)).length := by
    decide +kernel
  rw [told, List.length_append, List.length_append] at short
  omega

end Program
end GemSurvey
