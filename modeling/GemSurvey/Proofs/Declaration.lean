import GemSurvey.Declaration
import GemSurvey.Proofs.Bucket

/-! The declarations that buckets give rise to: one for each gem and each command that is
named, and for each of them the version that the ledger holds. -/
namespace GemSurvey

def Needs.declared (n : Needs) (development : Bool) : List Text :=
  if development then n.developmentOnly else n.runtime.names

theorem Needs.memDeclared {named : List (Role × Text)} {development name} :
    name ∈ (Needs.ofNamed named).declared development ↔
      ∃ role, (role, name) ∈ named ∧
        (development = true ↔ ∀ role', (role', name) ∈ named → role' = .auxiliary) := by
  have everywhere : (∀ role', (role', name) ∈ named → role' = Role.auxiliary) ↔
      (Role.distributed, name) ∉ named := by
    constructor
    · intro only there
      exact Role.noConfusion (only _ there)
    · intro absent role' there
      cases role' with
      | distributed => exact absurd there absent
      | auxiliary => rfl
  rw [everywhere]
  cases development with
  | false =>
    change name ∈ firstSeen .distributed named ↔ _
    rw [memFirstSeen]
    constructor
    · exact fun there => ⟨_, there, by simp [there]⟩
    · rintro ⟨_, _, absent⟩
      simpa using absent
  | true =>
    change name ∈ (Needs.ofNamed named).developmentOnly ↔ _
    rw [memDevelopmentOnly]
    constructor
    · exact fun there => ⟨_, there.1, by simp [there.2]⟩
    · rintro ⟨role, there, absent⟩
      have absent' := absent.mp rfl
      cases role with
      | distributed => exact absurd there absent'
      | auxiliary => exact ⟨there, absent'⟩

theorem Needs.nodupDeclared (named : List (Role × Text)) :
    ((Needs.ofNamed named).declared false ++ (Needs.ofNamed named).declared true).Nodup := by
  refine (nodupFirstSeen _ _).append (nodupDevelopmentOnly named) ?_
  intro name runtime development
  exact (memDevelopmentOnly.mp development).2 (memFirstSeen.mp runtime)

theorem Needs.declaredAlike {n m : Needs}
    (same : ∀ role name, name ∈ (n.forRole role).names ↔ name ∈ (m.forRole role).names)
    (development name) : name ∈ n.declared development ↔ name ∈ m.declared development := by
  have runtime := same .distributed name
  have auxiliary := same .auxiliary name
  simp only [forRole] at runtime auxiliary
  cases development <;> simp [declared, developmentOnly, Bucket.contains, runtime, auxiliary]

namespace Declaration

def key : Declaration → Key
  | dependency _ name _ _ => ⟨.gem, name⟩
  | requirement name _ _ => ⟨.command, name⟩

def development : Declaration → Bool
  | dependency development _ _ _ => development
  | requirement _ _ development => development

variable {buckets : Buckets} {versions : Ledger}

theorem memDependency {development name compatible minimum} :
    .dependency development name compatible minimum ∈ ofBuckets buckets versions ↔
      name ∈ buckets.gems.declared development ∧
        ofGem versions development name = .dependency development name compatible minimum := by
  cases development <;>
    simp [ofBuckets, ofGem, ofCommand, Needs.declared]

theorem memRequirement {name version development} :
    .requirement name version development ∈ ofBuckets buckets versions ↔
      name ∈ buckets.commands.declared development ∧
        versions.version? ⟨.command, name⟩ = version := by
  cases development <;>
    simp [ofBuckets, ofGem, ofCommand, Needs.declared]

theorem permOfBuckets {b c : Buckets} (once : ((ofBuckets b versions).map key).Nodup)
    (once' : ((ofBuckets c versions).map key).Nodup)
    (gems : ∀ role name, name ∈ (b.gems.forRole role).names ↔ name ∈ (c.gems.forRole role).names)
    (commands : ∀ role name,
      name ∈ (b.commands.forRole role).names ↔ name ∈ (c.commands.forRole role).names) :
    (ofBuckets b versions).Perm (ofBuckets c versions) := by
  refine (List.perm_ext_iff_of_nodup once.of_map once'.of_map).mpr fun d => ?_
  cases d with
  | dependency development name compatible minimum =>
    rw [memDependency, memDependency, Needs.declaredAlike gems]
  | requirement name version development =>
    rw [memRequirement, memRequirement, Needs.declaredAlike commands]

theorem declaredHeadings (buckets : Buckets) (versions : Ledger) :
    (ofBuckets buckets versions).map (fun d => (d.key, d.development)) =
    (buckets.gems.declared false).map (fun name => (⟨.gem, name⟩, false)) ++
      (buckets.gems.declared true).map (fun name => (⟨.gem, name⟩, true)) ++
      (buckets.commands.declared false).map (fun name => (⟨.command, name⟩, false)) ++
      (buckets.commands.declared true).map (fun name => (⟨.command, name⟩, true)) := by
  simp [ofBuckets, Needs.declared, ofGem, ofCommand, key, development, Function.comp_def]

end Declaration
end GemSurvey
