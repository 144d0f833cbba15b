import GemSurvey.Proofs.Declaration
import GemSurvey.Proofs.Reference.Token
import GemSurvey.Proofs.Survey.References
import GemSurvey.Proofs.Survey.Run
import GemSurvey.Proofs.Version

/-! The declarations of a survey. Each gem and each requirement that some reference came to is declared
once, with the version that the report has for it, however the tools answer. Gems come before commands,
and what the gem itself needs before what development needs, each name where it was first seen. The
names that are declared, of gems as of commands, are made of token characters. -/
namespace GemSurvey.Survey
open Requirement (fallback commandKey)

def CameToGem (as : List Answered) (role : Role) (name : Text) : Prop :=
  ∃ r version, ⟨r, .library (.gem name version)⟩ ∈ as ∧ r.role = role

def CameToLabel (as : List Answered) (role : Role) (label : Text) : Prop :=
  ∃ r version, ⟨r, .requirement ⟨label, version⟩⟩ ∈ as ∧ r.role = role

theorem memGems {as : List Answered} {role name} :
    (role, name) ∈ as.filterMap Answered.gem? ↔ CameToGem as role name := by
  rw [List.mem_filterMap]
  constructor
  · rintro ⟨⟨r, answer⟩, there, same⟩
    match answer, same with
    | .library (.gem _ version), rfl => exact ⟨r, version, there, rfl⟩
  · rintro ⟨r, version, there, rfl⟩
    exact ⟨_, there, rfl⟩

theorem memLabels {as : List Answered} {role label} :
    (role, label) ∈ as.filterMap Answered.label? ↔ CameToLabel as role label := by
  rw [List.mem_filterMap]
  constructor
  · rintro ⟨⟨r, answer⟩, there, same⟩
    match answer, same with
    | .requirement ⟨_, version⟩, rfl => exact ⟨r, version, there, rfl⟩
  · rintro ⟨r, version, there, rfl⟩
    exact ⟨_, there, rfl⟩

section
variable {package : Text} {tools : Tools} {which : Text} {seeded : Option Text}
  {as : List Answered} {s : Session}

theorem Accounts.gemLocated (h : Accounts package tools which seeded as s) {role name}
    (came : CameToGem as role name) :
    ∃ version place, ⟨⟨.gem, name⟩, some version, .packageManager⟩ ∈ s.versions.records ∧
      Located.parse? place = some (name, version) := by
  obtain ⟨r, version, there, _⟩ := came
  have member : ⟨⟨.gem, name⟩, some version, .packageManager⟩ ∈ s.versions.records :=
    (h.records _).mpr (.inr ⟨_, there, rfl⟩)
  obtain ⟨r', past, _, _, _, same⟩ := h.libraryRecord member (by simp)
  have located : Located.parse? (Library.placeOf (tools.locate past r'.name)) =
      some (name, version) := by
    simp only [Library.foundAt, Library.ofLocated] at same
    split at same <;> simp_all [Library.toRecord]
  exact ⟨version, _, member, located⟩

theorem Accounts.gemVersion (h : Accounts package tools which seeded as s) {role name}
    (came : CameToGem as role name) :
    ∃ version release, ⟨⟨.gem, name⟩, some version, .packageManager⟩ ∈ s.versions.records ∧
      IsVersion version release := by
  obtain ⟨version, place, member, located⟩ := h.gemLocated came
  obtain ⟨release, form⟩ := Located.parseForm located
  exact ⟨version, release, member, form⟩

theorem Accounts.labelNamed (h : Accounts package tools which seeded as s) {role label}
    (came : CameToLabel as role label) :
    label = fallback ∨ ∃ r ∈ as.map Answered.reference, r.kind = .command ∧ r.name = label := by
  obtain ⟨r, version, there, _⟩ := came
  have named := List.mem_map_of_mem (f := Answered.reference) there
  have fair := h.justified _ there
  generalize found : Requirement.mk label version = q at there fair
  cases fair with
  | fallback =>
    cases found
    exact .inl rfl
  | command past kind other =>
    cases own : Requirement.versionAt? tools which r.name past with
    | none =>
      rw [own] at found
      cases found
      exact .inl rfl
    | some v =>
      rw [own] at found
      cases found
      exact .inr ⟨r, named, kind, rfl⟩

theorem Accounts.labelVersion (h : Accounts package tools which seeded as s) {role label}
    (came : CameToLabel as role label) :
    ∃ version provenance, ⟨commandKey label, version, provenance⟩ ∈ s.versions.records ∧
      (version = none ↔ label = fallback ∧ seeded = none) := by
  obtain ⟨r, version, there, _⟩ := came
  have seed := (h.records (Requirement.fallbackRecord seeded)).mpr (.inl rfl)
  have fair := h.justified _ there
  generalize found : Requirement.mk label version = q at there fair
  cases fair with
  | fallback =>
    cases found
    exact ⟨seeded, _, seed, by simp⟩
  | command past kind other =>
    have left := (h.records _).mpr (.inr ⟨_, there, recordOfCommand other⟩)
    cases own : Requirement.versionAt? tools which r.name past with
    | none =>
      rw [own] at found
      cases found
      exact ⟨seeded, _, seed, by simp⟩
    | some v =>
      rw [own] at found left
      cases found
      exact ⟨some v, _, left, by simp [other]⟩

end

structure Declares (blank : Bool) (as : List Answered) (report : Report) : Prop where
  order : report.declarations.map (fun d => (d.key, d.development)) =
    (firstSeen .distributed (as.filterMap Answered.gem?)).map (fun name => (⟨.gem, name⟩, false)) ++
    ((firstSeen .auxiliary (as.filterMap Answered.gem?)).filter
      (· ∉ firstSeen .distributed (as.filterMap Answered.gem?))).map
      (fun name => (⟨.gem, name⟩, true)) ++
    (firstSeen .distributed (as.filterMap Answered.label?)).map
      (fun label => (⟨.command, label⟩, false)) ++
    ((firstSeen .auxiliary (as.filterMap Answered.label?)).filter
      (· ∉ firstSeen .distributed (as.filterMap Answered.label?))).map
      (fun label => (⟨.command, label⟩, true))
  once : (report.declarations.map Declaration.key).Nodup
  gems : ∀ development name,
    (∃ compatible minimum, .dependency development name compatible minimum ∈ report.declarations) ↔
      ∃ role, CameToGem as role name ∧
        (development = true ↔ ∀ role', CameToGem as role' name → role' = .auxiliary)
  commands : ∀ development label,
    (∃ version, .requirement label version development ∈ report.declarations) ↔
      ∃ role, CameToLabel as role label ∧
        (development = true ↔ ∀ role', CameToLabel as role' label → role' = .auxiliary)
  records : (report.versions.map Record.key).Nodup
  gemVersions : ∀ development name compatible minimum,
    .dependency development name compatible minimum ∈ report.declarations →
      ⟨⟨.gem, name⟩, some minimum, .packageManager⟩ ∈ report.versions ∧ minimum ≠ [] ∧
      IsVersion minimum compatible
  commandVersions : ∀ development label version,
    .requirement label version development ∈ report.declarations →
      (∃ provenance, ⟨⟨.command, label⟩, version, provenance⟩ ∈ report.versions) ∧
      (version = none ↔ label = fallback ∧ blank = true)

theorem nodupKeys (buckets : Buckets) (versions : Ledger) (as : List Answered)
    (same : buckets = .ofAnswers as) :
    ((Declaration.ofBuckets buckets versions).map Declaration.key).Nodup := by
  subst same
  have keys := congrArg (List.map Prod.fst)
    (Declaration.declaredHeadings (Buckets.ofAnswers as) versions)
  simp only [List.map_map, Function.comp_def, List.map_append] at keys
  rw [keys, List.append_assoc, ← List.map_append, ← List.map_append]
  have gems := Needs.nodupDeclared (as.filterMap Answered.gem?)
  have commands := Needs.nodupDeclared (as.filterMap Answered.label?)
  refine (gems.map fun a b same => ?_).append (commands.map fun a b same => ?_) ?_
  · exact (Key.mk.inj same).2
  · exact (Key.mk.inj same).2
  · intro key gem command
    obtain ⟨_, _, rfl⟩ := List.mem_map.mp gem
    obtain ⟨_, _, same⟩ := List.mem_map.mp command
    exact KeyKind.noConfusion (Key.mk.inj same).1

theorem Accounted.declares {package : Text} {tools : Tools} {which : Text} {seeded : Option Text}
    {as : List Answered} {s : State} (h : Accounted package tools which seeded as s)
    (selected : List Selected) : Declares seeded.isNone as (summarise selected s) where
  order := by
    simp only [summarise, Declaration.declaredHeadings, h.buckets]
    simp [Buckets.ofAnswers, Needs.declared, Needs.developmentOnly, Needs.ofNamed, Bucket.contains]
  once := nodupKeys s.buckets s.session.versions as h.buckets
  gems development name := by
    simp only [summarise, Declaration.memDependency, h.buckets, Buckets.ofAnswers,
      Needs.memDeclared, memGems]
    simp [Declaration.ofGem]
  commands development label := by
    simp only [summarise, Declaration.memRequirement, h.buckets, Buckets.ofAnswers,
      Needs.memDeclared, memLabels]
    simp
  records := s.session.versions.nodupKeys
  gemVersions development name compatible minimum there := by
    simp only [summarise, Declaration.memDependency, h.buckets, Buckets.ofAnswers,
      Needs.memDeclared, memGems] at there
    obtain ⟨⟨role, came, _⟩, declared⟩ := there
    obtain ⟨version, release, member, form⟩ := h.session.gemVersion came
    have held := Ledger.versionOfMem member
    simp only at held
    simp only [Declaration.ofGem, held, Option.getD_some, form.compatible,
      Declaration.dependency.injEq, true_and] at declared
    obtain ⟨rfl, rfl⟩ := declared
    exact ⟨member, form.nonempty, form⟩
  commandVersions development label version there := by
    simp only [summarise, Declaration.memRequirement, h.buckets, Buckets.ofAnswers,
      Needs.memDeclared, memLabels] at there
    obtain ⟨⟨role, came, _⟩, rfl⟩ := there
    obtain ⟨version, provenance, member, missing⟩ := h.session.labelVersion came
    have held : s.session.versions.version? ⟨.command, label⟩ = version :=
      Ledger.versionOfMem member
    rw [held]
    exact ⟨⟨provenance, member⟩, by simpa using missing⟩

theorem surveyDeclares {subject : Subject} {tools : Tools} {which : Text} {tracked : List Path}
    {report : Report} (ok : (run subject tools which (.ok tracked)).result = .ok report) :
    (subject.answers tools which tracked).map Answered.reference = subject.references tracked ∧
    Declares (Text.trim subject.scan.systemRequirement).isEmpty
      (subject.answers tools which tracked) report := by
  obtain ⟨final, rfl, accounts, references⟩ := reported ok
  have blank : subject.scan.requirement?.isNone =
      (Text.trim subject.scan.systemRequirement).isEmpty := by
    simp only [ScanSettings.requirement?]
    split <;> simp_all
  exact ⟨references, blank ▸ accounts.declares (subject.select tracked)⟩

theorem sampleDeclares :
    (run Sample.subject (.steady (Sample.locate "7.2") Sample.ask) "which"
      (.ok Sample.tracked)).result = .ok Sample.report ∧
    Declares false (Sample.subject.answers (.steady (Sample.locate "7.2") Sample.ask) "which"
      Sample.tracked) Sample.report :=
  ⟨Sample.reported, (surveyDeclares Sample.reported).2⟩

end GemSurvey.Survey

namespace GemSurvey.Survey

variable {subject : Subject} {tools : Tools} {which : Text} {tracked : List Path} {report : Report}

theorem fallbackChars : ∀ c ∈ Requirement.fallback, Line.isTokenChar c = true :=
  List.all_eq_true.mp (by decide +kernel)

theorem declaredNames (ok : (run subject tools which (.ok tracked)).result = .ok report) :
    ∀ d ∈ report.declarations, ∀ c ∈ d.key.name, Line.isTokenChar c = true := by
  obtain ⟨final, rfl, accounts, references⟩ := reported ok
  have declares := accounts.declares (subject.select tracked)
  intro d there
  cases d with
  | dependency development name compatible minimum =>
    obtain ⟨role, came, _⟩ := (declares.gems development name).mp ⟨compatible, minimum, there⟩
    obtain ⟨version, place, _, located⟩ := accounts.session.gemLocated came
    exact Located.parseName located
  | requirement name version development =>
    obtain ⟨role, came, _⟩ := (declares.commands development name).mp ⟨version, there⟩
    rcases accounts.session.labelNamed came with rfl | ⟨r, member, kind, rfl⟩
    · exact fallbackChars
    · rw [references] at member
      obtain ⟨line, written⟩ := Subject.written member
      exact Line.commandChars (Line.matchedCommand (kind ▸ written))

end GemSurvey.Survey
