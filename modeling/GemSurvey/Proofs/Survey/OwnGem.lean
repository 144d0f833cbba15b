import GemSurvey.Proofs.Resolution.Library
import GemSurvey.Proofs.Survey.Declared
import GemSurvey.Proofs.Survey.Inquiries
import GemSurvey.Proofs.Survey.Located

/-! When a gem is declared to depend on itself. What counts as its own is settled by the name that
a line requires, what is declared by the name that the tools give for it. -/
namespace GemSurvey

theorem Library.FoundIn.unique {tools : Tools} {calls : List Call} {name : Text}
    {found other : Library} (once : calls.Nodup) (h : FoundIn tools calls name found)
    (h' : FoundIn tools calls name other) : found = other := by
  obtain ⟨past, later, rfl, rfl⟩ := h
  obtain ⟨past', later', same, rfl⟩ := h'
  have absent := (List.nodup_cons.mp (List.nodup_middle.mp once)).1
  rw [List.mem_append, not_or] at absent
  obtain ⟨rfl, _⟩ := (List.append_cons_inj_of_notMem absent.1 absent.2).mp same
  rfl

namespace Survey

def Depends (report : Report) (name : Text) : Prop :=
  ∃ development compatible minimum,
    .dependency development name compatible minimum ∈ report.declarations

theorem Declares.depends {blank : Bool} {as : List Answered} {report : Report}
    (h : Declares blank as report) {name : Text} :
    Depends report name ↔ ∃ r version, ⟨r, .library (.gem name version)⟩ ∈ as := by
  constructor
  · rintro ⟨development, declared⟩
    obtain ⟨_, ⟨r, version, there, _⟩, _⟩ := (h.gems development name).mp declared
    exact ⟨r, version, there⟩
  · rintro ⟨r, version, there⟩
    have came : CameToGem as r.role name := ⟨r, version, there, rfl⟩
    by_cases only : ∀ role, CameToGem as role name → role = .auxiliary
    · exact ⟨true, (h.gems true name).mpr ⟨r.role, came, iff_of_true rfl only⟩⟩
    · exact ⟨false, (h.gems false name).mpr ⟨r.role, came, iff_of_false Bool.false_ne_true only⟩⟩

def ImportsFrom (package : Text) (tools : Tools) (calls : List Call) (rs : List Reference)
    (gem : Text) : Prop :=
  ∃ r ∈ rs, r.kind = .library ∧ ¬ Library.IsOwn package r.name ∧
    ∃ past later version, calls = past ++ .locate r.name :: later ∧
      Located.parse? (Library.placeOf (tools.locate past r.name)) = some (gem, version)

variable {subject : Subject} {tools : Tools} {which : Text} {tracked : List Path} {report : Report}

theorem dependsLocated (ok : (run subject tools which (.ok tracked)).result = .ok report)
    (gem : Text) :
    Depends report gem ↔
      ImportsFrom subject.package tools (run subject tools which (.ok tracked)).session.calls
        (subject.references tracked) gem := by
  obtain ⟨final, same, accounts, _⟩ := reported ok
  have declares := same ▸ accounts.declares (subject.select tracked)
  rw [declares.depends]
  simp only [ImportsFrom, ← Library.isSelfIff, Bool.not_eq_true]
  constructor
  · rintro ⟨r, version, answered⟩
    obtain ⟨member, kind, other, past, later, calls, found⟩ := answeredFound ok answered
    exact ⟨r, member, kind, other, past, later, version, calls, Library.foundGem.mp found.symm⟩
  · rintro ⟨r, member, kind, other, past, later, version, calls, located⟩
    obtain ⟨found, answered, place⟩ := importAnswered ok member kind other
    have told := Library.foundGem.mpr located
    obtain rfl := place.unique (callsOnce subject tools which tracked)
      ⟨past, later, calls, told.symm⟩
    exact ⟨r, version, answered⟩

theorem surveyOwnGem (ok : (run subject tools which (.ok tracked)).result = .ok report) :
    Depends report subject.package ↔
      ImportsFrom subject.package tools (run subject tools which (.ok tracked)).session.calls
        (subject.references tracked) subject.package :=
  dependsLocated ok subject.package

end Survey

/- A gem that has a hyphen where the paths of its files have a slash. -/
namespace Sample

def hyphened : Subject where
  view p :=
    if p.text = ("/w/lib/net/ssh.rb" : Text) then
      .ok (.file (Text.encode "require 'net/ssh/version'\n".toList) false)
    else .error .notFound
  root := "/w"
  package := "net-ssh"
  scan := {}

def installed (name : Text) : Except IoFault Text :=
  if name = ("net/ssh/version" : Text) then .ok "/g/net-ssh-7.2/lib/net/ssh/version.rb" else .ok []

def hyphenedReport : Report where
  filesScanned := 1
  versions := [
    ⟨⟨.gem, "net-ssh"⟩, some "7.2", .packageManager⟩,
    ⟨⟨.command, "system"⟩, some "linux/bash", .configured⟩]
  buckets := { gems := ⟨⟨["net-ssh"]⟩, {}⟩ }
  declarations := [.dependency false "net-ssh" "7.2" "7.2"]
  diagnostics := []

theorem hyphenedReported :
    (Survey.run hyphened (.steady installed ask) "which" (.ok ["lib/net/ssh.rb"])).result =
      .ok hyphenedReport := by
  decide +kernel

theorem hyphenedDepends : Survey.Depends hyphenedReport "net-ssh" :=
  ⟨false, "7.2", "7.2", List.mem_singleton.mpr rfl⟩

end Sample

namespace Survey

theorem dependsOnItself :
    ¬ ∀ (subject : Subject) (tools : Tools) (which : Text) (tracked : List Path) (report : Report),
      (run subject tools which (.ok tracked)).result = .ok report →
        ¬ Depends report subject.package := by
  intro never
  exact never _ _ _ _ _ Sample.hyphenedReported Sample.hyphenedDepends

theorem sampleOwnGem :
    (run Sample.hyphened (.steady Sample.installed Sample.ask) "which"
      (.ok ["lib/net/ssh.rb"])).result = .ok Sample.hyphenedReport ∧
    ImportsFrom "net-ssh" (.steady Sample.installed Sample.ask)
      (run Sample.hyphened (.steady Sample.installed Sample.ask) "which"
        (.ok ["lib/net/ssh.rb"])).session.calls
      (Sample.hyphened.references ["lib/net/ssh.rb"]) "net-ssh" :=
  ⟨Sample.hyphenedReported, (surveyOwnGem Sample.hyphenedReported).mp Sample.hyphenedDepends⟩

end Survey
end GemSurvey
