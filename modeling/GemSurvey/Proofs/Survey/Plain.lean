import GemSurvey.Proofs.Survey.Run

/-! A survey without memory. Where the tools always answer alike, each reference can be settled
by itself, and the buckets of a survey hold what their references come to one by one. -/
namespace GemSurvey.Plain
open Requirement (fallback settle succeeded stdoutOf combinedOf)

section
variable (locate : Text → Except IoFault Text) (run : Text → List Text → Except IoFault Output)
  (which package : Text)

def located? (name : Text) : Option (Text × Text) :=
  Located.parse? (Library.placeOf (locate name))

def version? (command : Text) : Option Text :=
  if succeeded (run which [command]) then
    (Text.firstLine? (stdoutOf (run command ["--version"]))).or <|
      (Text.lastWord? (stdoutOf (run command ["-v"]))).or
        (Text.lastWord? (combinedOf (run command ["-v"])))
  else none

def label (command : Text) : Text :=
  if command ≠ fallback ∧ (version? run which command).isSome then command else fallback

def answer (seeded : Option Text) (r : Reference) : Answer :=
  match r.kind with
  | .library =>
      if Library.isSelf package r.name then .own
      else .library (Library.foundAt (.steady locate run) [] r.name)
  | .command => .requirement <|
      if r.name = fallback then ⟨fallback, seeded⟩
      else settle seeded r.name (version? run which r.name)

def IsImport (r : Reference) : Prop := r.kind = .library ∧ Library.isSelf package r.name = false

instance (r : Reference) : Decidable (IsImport package r) := by unfold IsImport; infer_instance

def gem? (r : Reference) : Option (Role × Text) :=
  if IsImport package r then (located? locate r.name).map fun found => (r.role, found.1) else none

def builtin? (r : Reference) : Option (Role × Text) :=
  if IsImport package r ∧ located? locate r.name = none then some (r.role, r.name) else none

def label? (r : Reference) : Option (Role × Text) :=
  if r.kind = .command then some (r.role, label run which r.name) else none

def buckets (rs : List Reference) : Buckets where
  gems := .ofNamed (rs.filterMap (gem? locate package))
  libraries := .ofNamed (rs.filterMap (builtin? locate package))
  commands := .ofNamed (rs.filterMap (label? run which))

end

section
variable {locate : Text → Except IoFault Text} {run : Text → List Text → Except IoFault Output}
  {which package : Text} {seeded : Option Text} {a : Answered} {as : List Answered}

theorem versionSteady (command : Text) (past : List Call) :
    Requirement.versionAt? (.steady locate run) which command past =
      version? run which command := by
  by_cases present : succeeded (run which [command])
  · simp only [Requirement.versionAt?, Requirement.probe, Requirement.probeVersion, Session.run,
      Tools.steady, version?, present, if_true]
    cases Text.firstLine? (stdoutOf (run command ["--version"])) <;> rfl
  · simp [Requirement.versionAt?, Requirement.probe, Session.run, Tools.steady, version?, present,
      Requirement.probed]

theorem answered (h : Survey.Justified package (.steady locate run) which seeded a) :
    a = ⟨a.reference, answer locate run which package seeded a.reference⟩ := by
  cases h with
  | own kind self => simp [answer, kind, self]
  | library past kind other =>
    simp only [answer, kind, other]
    rfl
  | fallback kind named => simp [answer, kind, named]
  | command past kind other => simp [answer, kind, other, versionSteady]

theorem allAnswered (h : ∀ a ∈ as, Survey.Justified package (.steady locate run) which seeded a) :
    as = (as.map Answered.reference).map fun r =>
      ⟨r, answer locate run which package seeded r⟩ := by
  rw [List.map_map]
  exact (List.map_id as).symm.trans (List.map_congr_left fun a there => answered (h a there))

theorem gemAnswer (r : Reference) :
    Answered.gem? ⟨r, answer locate run which package seeded r⟩ = gem? locate package r := by
  cases kind : r.kind with
  | library =>
    by_cases self : Library.isSelf package r.name
    · simp [Answered.gem?, answer, gem?, IsImport, kind, self]
    · simp only [Answered.gem?, answer, gem?, IsImport, kind, self, located?, true_and]
      simp only [Library.foundAt, Library.ofLocated, Tools.steady]
      cases Located.parse? (Library.placeOf (locate r.name)) <;> rfl
  | command => simp [Answered.gem?, answer, gem?, IsImport, kind]

theorem builtinAnswer (r : Reference) :
    Answered.builtin? ⟨r, answer locate run which package seeded r⟩ =
      builtin? locate package r := by
  cases kind : r.kind with
  | library =>
    by_cases self : Library.isSelf package r.name
    · simp [Answered.builtin?, answer, builtin?, IsImport, kind, self]
    · simp only [Answered.builtin?, answer, builtin?, IsImport, kind, self, located?, true_and]
      simp only [Library.foundAt, Library.ofLocated, Tools.steady]
      cases Located.parse? (Library.placeOf (locate r.name)) <;> rfl
  | command => simp [Answered.builtin?, answer, builtin?, IsImport, kind]

theorem labelAnswer (r : Reference) :
    Answered.label? ⟨r, answer locate run which package seeded r⟩ = label? run which r := by
  cases kind : r.kind with
  | library =>
    by_cases self : Library.isSelf package r.name <;>
      simp [Answered.label?, answer, label?, kind, self]
  | command =>
    by_cases named : r.name = fallback
    · simp [Answered.label?, answer, label?, label, kind, named]
    · simp only [Answered.label?, answer, label?, label, kind, named, if_true, if_false]
      cases version? run which r.name <;> simp [settle, named]

theorem bucketsAnswered
    (h : ∀ a ∈ as, Survey.Justified package (.steady locate run) which seeded a) :
    Buckets.ofAnswers as = buckets locate run which package (as.map Answered.reference) := by
  rw [allAnswered h]
  simp only [Buckets.ofAnswers, buckets, List.filterMap_map, List.map_map, Function.comp_def,
    gemAnswer, builtinAnswer, labelAnswer]

variable {rs : List Reference} {role : Role} {name : Text}

theorem memGems : name ∈ ((buckets locate run which package rs).gems.forRole role).names ↔
    ∃ r ∈ rs, r.role = role ∧ IsImport package r ∧
      ∃ version, located? locate r.name = some (name, version) := by
  rw [buckets, Needs.forRoleNamed, memFirstSeen, List.mem_filterMap]
  refine exists_congr fun r => and_congr_right fun _ => ?_
  by_cases wanted : IsImport package r
  · simp only [gem?, wanted, if_true, Option.map_eq_some_iff, Prod.mk.injEq, Prod.exists]
    constructor
    · rintro ⟨found, version, same, rfl, rfl⟩
      exact ⟨rfl, trivial, version, same⟩
    · rintro ⟨rfl, _, version, same⟩
      exact ⟨name, version, same, rfl, rfl⟩
  · simp [gem?, wanted]

theorem memLibraries : name ∈ ((buckets locate run which package rs).libraries.forRole role).names ↔
    ∃ r ∈ rs, r.role = role ∧ IsImport package r ∧ located? locate r.name = none ∧
      r.name = name := by
  rw [buckets, Needs.forRoleNamed, memFirstSeen, List.mem_filterMap]
  refine exists_congr fun r => and_congr_right fun _ => ?_
  by_cases wanted : IsImport package r ∧ located? locate r.name = none
  · simp [builtin?, wanted]
  · simp only [builtin?, wanted, if_false, reduceCtorEq, false_iff]
    exact fun given => wanted ⟨given.2.1, given.2.2.1⟩

theorem memCommands : name ∈ ((buckets locate run which package rs).commands.forRole role).names ↔
    ∃ r ∈ rs, r.role = role ∧ r.kind = .command ∧ label run which r.name = name := by
  rw [buckets, Needs.forRoleNamed, memFirstSeen, List.mem_filterMap]
  refine exists_congr fun r => and_congr_right fun _ => ?_
  by_cases kind : r.kind = .command <;> simp [label?, kind]

theorem reportedBuckets {subject : Subject} {tracked : List Path} {report : Report}
    (ok : (Survey.run subject (.steady locate run) which (.ok tracked)).result = .ok report) :
    report.buckets =
      buckets locate run which subject.package (subject.references tracked) := by
  obtain ⟨final, rfl, accounts, references⟩ := Survey.reported ok
  rw [← references, ← bucketsAnswered accounts.session.justified]
  exact accounts.buckets

theorem surveyBuckets {subject : Subject} {tracked : List Path} {report : Report}
    (ok : (Survey.run subject (.steady locate run) which (.ok tracked)).result = .ok report) :
    report.buckets = buckets locate run which subject.package (subject.references tracked) ∧
    (∀ role name,
      (name ∈ (report.buckets.gems.forRole role).names ↔
        ∃ r ∈ subject.references tracked, r.role = role ∧ IsImport subject.package r ∧
          ∃ version, located? locate r.name = some (name, version)) ∧
      (name ∈ (report.buckets.libraries.forRole role).names ↔
        ∃ r ∈ subject.references tracked, r.role = role ∧ IsImport subject.package r ∧
          located? locate r.name = none ∧ r.name = name) ∧
      (name ∈ (report.buckets.commands.forRole role).names ↔
        ∃ r ∈ subject.references tracked, r.role = role ∧ r.kind = .command ∧
          label run which r.name = name)) ∧
    ∀ role, (report.buckets.gems.forRole role).names.Nodup ∧
      (report.buckets.libraries.forRole role).names.Nodup ∧
      (report.buckets.commands.forRole role).names.Nodup := by
  have same := reportedBuckets ok
  refine ⟨same, fun role name => ?_, fun role => ?_⟩
  · rw [same]
    exact ⟨memGems, memLibraries, memCommands⟩
  · rw [same]
    simp only [buckets, Needs.forRoleNamed]
    exact ⟨nodupFirstSeen _ _, nodupFirstSeen _ _, nodupFirstSeen _ _⟩

theorem sampleBuckets :
    (Survey.run Sample.subject (.steady (Sample.locate "7.2") Sample.ask) "which"
      (.ok Sample.tracked)).result = .ok Sample.report ∧
    Sample.report.buckets = buckets (Sample.locate "7.2") Sample.ask "which" "own"
      (Sample.subject.references Sample.tracked) :=
  ⟨Sample.reported, (surveyBuckets Sample.reported).1⟩

end
end GemSurvey.Plain
