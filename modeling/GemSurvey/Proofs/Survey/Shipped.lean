import GemSurvey.Proofs.Survey.Declared
import GemSurvey.Proofs.Survey.Failure
import GemSurvey.Proofs.Survey.References

/-! What ships with a gem. Where the tools always answer alike, a survey of the distributed files
alone comes to the same runtime side as the whole survey: development leaves no trace in it. -/
namespace GemSurvey

theorem firstSeenOfRole {role : Role} {named : Reference → Option (Role × Text)}
    (keeps : ∀ r entry, named r = some entry → entry.1 = r.role) (rs : List Reference) :
    firstSeen role ((rs.filter fun r => r.role = role).filterMap named) =
      firstSeen role (rs.filterMap named) := by
  have same : ((rs.filter fun r => r.role = role).filterMap named).filter (fun e => e.1 = role) =
      (rs.filterMap named).filter fun e => e.1 = role := by
    rw [List.filterMap_filter, List.filter_filterMap, List.filter_filterMap]
    refine List.filterMap_congr fun r _ => ?_
    cases found : named r with
    | none => simp
    | some entry =>
      by_cases wanted : r.role = role <;> simp [wanted, keeps r entry found, Option.filter]
  rw [firstSeen, same, firstSeen]

namespace Declaration

theorem ofRuntime (buckets : Buckets) (versions : Ledger) :
    (ofBuckets buckets versions).filter (fun d => !d.development) =
      buckets.gems.runtime.names.map (ofGem versions false) ++
        buckets.commands.runtime.names.map (ofCommand versions false) := by
  simp [ofBuckets, List.filter_map, Function.comp_def, ofGem, ofCommand, development]

end Declaration

namespace Plain

variable {locate : Text → Except IoFault Text} {run : Text → List Text → Except IoFault Output}
  {which package : Text} {seeded : Option Text} {as whole : List Answered} {s final : Session}

theorem gemRole (r : Reference) (entry : Role × Text) (named : gem? locate package r = some entry) :
    entry.1 = r.role := by
  unfold gem? at named
  split at named
  · obtain ⟨_, _, rfl⟩ := Option.map_eq_some_iff.mp named
    rfl
  · contradiction

theorem builtinRole (r : Reference) (entry : Role × Text)
    (named : builtin? locate package r = some entry) : entry.1 = r.role := by
  unfold builtin? at named
  split at named
  · cases Option.some.inj named
    rfl
  · contradiction

theorem labelRole (r : Reference) (entry : Role × Text)
    (named : label? run which r = some entry) : entry.1 = r.role := by
  unfold label? at named
  split at named
  · cases Option.some.inj named
    rfl
  · contradiction

theorem runtimeBuckets (locate : Text → Except IoFault Text)
    (run : Text → List Text → Except IoFault Output) (which package : Text) (rs : List Reference) :
    let shipped := buckets locate run which package (rs.filter fun r => r.role = .distributed)
    let all := buckets locate run which package rs
    shipped.gems.runtime = all.gems.runtime ∧ shipped.libraries.runtime = all.libraries.runtime ∧
      shipped.commands.runtime = all.commands.runtime :=
  ⟨congrArg Bucket.mk (firstSeenOfRole gemRole rs),
    congrArg Bucket.mk (firstSeenOfRole builtinRole rs),
    congrArg Bucket.mk (firstSeenOfRole labelRole rs)⟩

theorem sameAnswered {a b : Answered}
    (left : Survey.Justified package (.steady locate run) which seeded a)
    (right : Survey.Justified package (.steady locate run) which seeded b)
    (same : a.reference = b.reference) : a = b := by
  rw [answered left, answered right, same]

theorem recordsGrow (h : Survey.Accounts package (.steady locate run) which seeded as s)
    (h' : Survey.Accounts package (.steady locate run) which seeded whole final)
    (within : ∀ r ∈ as.map Answered.reference, r ∈ whole.map Answered.reference) {record}
    (there : record ∈ s.versions.records) : record ∈ final.versions.records := by
  rcases (h.records record).mp there with seed | ⟨a, there', left⟩
  · exact (h'.records record).mpr (.inl seed)
  · obtain ⟨b, member, same⟩ := List.mem_map.mp (within _ (List.mem_map.mpr ⟨a, there', rfl⟩))
    have equal : b = a := sameAnswered (h'.justified b member) (h.justified a there') same
    exact (h'.records record).mpr (.inr ⟨a, equal ▸ member, left⟩)

variable {subject : Subject} {tracked : List Path} {report : Report}

theorem shippedSucceeds
    (ok : (Survey.run subject (.steady locate run) which (.ok tracked)).result = .ok report) :
    ∃ shipped, (Survey.run subject (.steady locate run) which
      (.ok (subject.ofRole .distributed tracked))).result = .ok shipped := by
  refine succeedsWithin (fun r there => ?_) ok
  rw [Subject.referencesOfRole] at there
  exact (List.mem_filter.mp there).1

theorem sameVersions {s final : Survey.State}
    (h : Survey.Accounted package (.steady locate run) which seeded as s)
    (h' : Survey.Accounted package (.steady locate run) which seeded whole final)
    (within : ∀ r ∈ as.map Answered.reference, r ∈ whole.map Answered.reference) :
    (∀ name ∈ s.buckets.gems.runtime.names,
      s.session.versions.version? ⟨.gem, name⟩ = final.session.versions.version? ⟨.gem, name⟩) ∧
    ∀ label ∈ s.buckets.commands.runtime.names,
      s.session.versions.version? ⟨.command, label⟩ =
        final.session.versions.version? ⟨.command, label⟩ := by
  have agree {record} (there : record ∈ s.session.versions.records) :
      s.session.versions.version? record.key = final.session.versions.version? record.key := by
    rw [Ledger.versionOfMem there,
      Ledger.versionOfMem (recordsGrow h.session h'.session within there)]
  rw [h.buckets]
  constructor
  · intro name named
    obtain ⟨_, _, there, _⟩ := h.session.gemVersion (Survey.memGems.mp (memFirstSeen.mp named))
    exact agree there
  · intro label named
    obtain ⟨_, _, there, _⟩ := h.session.labelVersion (Survey.memLabels.mp (memFirstSeen.mp named))
    exact agree there

theorem surveyShipped
    (ok : (Survey.run subject (.steady locate run) which (.ok tracked)).result = .ok report) :
    ∃ shipped, (Survey.run subject (.steady locate run) which
        (.ok (tracked.filter fun path =>
          Selection.roleOf subject.scan path = .distributed))).result = .ok shipped ∧
      shipped.buckets.gems.runtime = report.buckets.gems.runtime ∧
      shipped.buckets.libraries.runtime = report.buckets.libraries.runtime ∧
      shipped.buckets.commands.runtime = report.buckets.commands.runtime ∧
      shipped.declarations.filter (fun d => !d.development) =
        report.declarations.filter (fun d => !d.development) ∧
      ∀ record ∈ shipped.versions, record ∈ report.versions := by
  obtain ⟨shipped, ok'⟩ := shippedSucceeds ok
  have runtime := runtimeBuckets locate run which subject.package (subject.references tracked)
  rw [← Subject.referencesOfRole, ← reportedBuckets ok, ← reportedBuckets ok'] at runtime
  obtain ⟨gems, libraries, commands⟩ := runtime
  refine ⟨shipped, ok', gems, libraries, commands, ?_⟩
  obtain ⟨s, rfl, accounts, references⟩ := Survey.reported ok'
  obtain ⟨final, rfl, accounts', references'⟩ := Survey.reported ok
  have within : ∀ r ∈ (subject.answers (.steady locate run) which
      (subject.ofRole .distributed tracked)).map Answered.reference,
      r ∈ (subject.answers (.steady locate run) which tracked).map Answered.reference := by
    rw [references, references', Subject.referencesOfRole]
    exact fun r there => (List.mem_filter.mp there).1
  obtain ⟨gemVersions, commandVersions⟩ := sameVersions accounts accounts' within
  refine ⟨?_, fun record => recordsGrow accounts.session accounts'.session within⟩
  simp only [Survey.summarise, Declaration.ofRuntime] at gems commands ⊢
  rw [← gems, ← commands]
  congr 1
  · refine List.map_congr_left fun name named => ?_
    simp only [Declaration.ofGem, gemVersions name named]
  · refine List.map_congr_left fun label named => ?_
    simp only [Declaration.ofCommand, commandVersions label named]

theorem sampleShipped :
    (Survey.run Sample.subject (.steady (Sample.locate "7.2") Sample.ask) "which"
      (.ok Sample.tracked)).result = .ok Sample.report ∧
    ∃ shipped, (Survey.run Sample.subject (.steady (Sample.locate "7.2") Sample.ask) "which"
        (.ok (Sample.tracked.filter fun path =>
          Selection.roleOf Sample.subject.scan path = .distributed))).result = .ok shipped ∧
      shipped.declarations.filter (fun d => !d.development) =
        Sample.report.declarations.filter (fun d => !d.development) :=
  have ⟨shipped, ok, _, _, _, same, _⟩ := surveyShipped Sample.reported
  ⟨Sample.reported, shipped, ok, same⟩

end Plain
end GemSurvey
