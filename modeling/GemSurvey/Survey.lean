import GemSurvey.Declaration
import GemSurvey.Reference.Emission
import GemSurvey.Resolution.Library
import GemSurvey.Resolution.Requirement
import GemSurvey.Source.Selection

/-! A survey reads the tracked sources once, resolves what they refer to and sums it up. Tracked paths
are relative to the root of its subject. Only a failed listing or a version conflict ends it; all other
problems are noted, and what was asked and met on the way is told in any case. -/
namespace GemSurvey

structure Report where
  filesScanned : Nat
  versions : List Record
  buckets : Buckets
  declarations : List Declaration
  diagnostics : List Diagnostic
  deriving DecidableEq, Repr

structure Subject where
  view : View
  root : Path
  package : Text
  scan : ScanSettings

namespace Subject

def select (subject : Subject) (tracked : List Path) : List Selected :=
  Selection.select subject.scan subject.view subject.root tracked

def emitted (subject : Subject) (file : SourceFile) : List Emitted :=
  Emission.fromFile subject.view subject.root file

end Subject

namespace Survey

structure State where
  session : Session := {}
  buckets : Buckets := {}

def takeReference (package : Text) (tools : Tools) (which : Text) (r : Reference) (s : State) :
    Except Conflict Unit × State :=
  match r.kind with
  | .library => match Library.resolve package tools r.name s.session with
      | (.error conflict, session) => (.error conflict, { s with session := session })
      | (.ok none, session) => (.ok (), { s with session := session })
      | (.ok (some found), session) => (.ok (), ⟨session, s.buckets.addLibrary r.role found⟩)
  | .command => match Requirement.resolve tools which r.name s.session with
      | (.error conflict, session) => (.error conflict, { s with session := session })
      | (.ok found, session) => (.ok (), ⟨session, s.buckets.addRequirement r.role found⟩)

def take (package : Text) (tools : Tools) (which : Text) (e : Emitted) (s : State) :
    Except Conflict Unit × State :=
  match e with
  | .reference r => takeReference package tools which r s
  | .problem d => (.ok (), { s with session := s.session.report d })

def takeAll (package : Text) (tools : Tools) (which : Text) :
    List Emitted → State → Except Conflict Unit × State
  | [], s => (.ok (), s)
  | e :: rest, s => match take package tools which e s with
      | (.ok (), s) => takeAll package tools which rest s
      | stopped => stopped

def summarise (selected : List Selected) (s : State) : Report where
  filesScanned := (Selection.files selected).length
  versions := s.session.versions.records
  buckets := s.buckets
  declarations := Declaration.ofBuckets s.buckets s.session.versions
  diagnostics := Selection.problems selected ++ s.session.problems

structure Outcome where
  result : Except Fault Report
  selected : Option (List Selected)
  session : Session

def listing (tracked : Except Fault (List Path)) : Except Fault (List Path) :=
  match tracked with
  | .ok paths => .ok paths
  | .error fault => .error (fault.withContext "Failed to list tracked files")

def run (subject : Subject) (tools : Tools) (which : Text) (tracked : Except Fault (List Path)) :
    Outcome :=
  match Requirement.seed subject.scan.requirement? {} with
  | (.error conflict, session) => ⟨.error conflict.fault, none, session⟩
  | (.ok (), session) => match listing tracked with
      | .error fault => ⟨.error fault, none, session⟩
      | .ok paths =>
          let selected := subject.select paths
          let items := (Selection.files selected).flatMap subject.emitted
          match takeAll subject.package tools which items { session := session } with
          | (.error conflict, s) => ⟨.error conflict.fault, some selected, s.session⟩
          | (.ok (), s) => ⟨.ok (summarise selected s), some selected, s.session⟩

end Survey
end GemSurvey
