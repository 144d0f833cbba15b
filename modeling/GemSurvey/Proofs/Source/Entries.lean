import GemSurvey.Proofs.Source.Judged

/-! What the configured roots and suffixes match. A root is compared with one component of a path, and a
suffix with what follows the last dot of a name, so that an entry of another form matches nothing;
whether it is of that form is not asked when settings are accepted. Of any other root, and of any other
suffix that begins with no dot, nothing is asked. -/
namespace GemSurvey.Selection
open GemSurvey.Path (IsName)
open Text (Blank)

inductive LastPart (part : Text) : Text → Prop where
  | whole (one : '.' ∉ part) : LastPart part part
  | after {before} (one : '.' ∉ part) : LastPart part (before ++ '.' :: part)

structure EntriesMatch (scan : ScanSettings) : Prop where
  roots : ∀ entry ∈ scan.distributedRoots, ¬ Blank entry →
    ∀ q : Path, q.isAbsolute = false →
      (roleOf scan ((⟨entry⟩ : Path).join q) = .distributed ↔ InRoot scan ⟨entry⟩)
  named : ∀ entry ∈ scan.distributedRoots, IsName entry →
    ∀ q : Path, q.isAbsolute = false →
      roleOf scan ((⟨entry⟩ : Path).join q) = .distributed
  rooted : ∀ entry ∈ scan.distributedRoots,
    (∃ path, roleOf { scan with distributedRoots := [entry] } path = .distributed) ↔ IsName entry
  suffixes : ∀ entry ∈ scan.sourceSuffixes, ¬ Blank entry → '/' ∉ entry →
    ∃ part, LastPart part entry ∧
      ∀ (view : View) (root directory : Path) (stem : Text), stem ≠ [] → '/' ∉ stem →
        (kind? scan view root (directory.join ⟨stem ++ '.' :: entry⟩) = .ok (some .script) ↔
          part ∈ scan.sourceSuffixes)
  undotted : ∀ entry ∈ scan.sourceSuffixes, ¬ Blank entry → '/' ∉ entry → '.' ∉ entry →
    ∀ (view : View) (root directory : Path) (stem : Text), stem ≠ [] → '/' ∉ stem →
      kind? scan view root (directory.join ⟨stem ++ '.' :: entry⟩) = .ok (some .script)
  suffixed : ∀ entry ∈ scan.sourceSuffixes,
    (∃ path, ∀ (view : View) (root : Path),
      kind? { scan with sourceSuffixes := [entry] } view root path = .ok (some .script)) ↔
        '.' ∉ entry ∧ '/' ∉ entry
  admitted : ∀ root suffix : Text, suffix.head? ≠ some '.' →
    ({ scan with
        distributedRoots := root :: scan.distributedRoots
        sourceSuffixes := suffix :: scan.sourceSuffixes } : ScanSettings).validate = .ok ()

theorem lastPart (t : Text) : ∃ part, LastPart part t := by
  by_cases dotted : '.' ∈ t
  · obtain ⟨part, before, same, one⟩ := List.eq_append_cons_of_mem (List.mem_reverse.mpr dotted)
    have turned := congrArg List.reverse same
    rw [List.reverse_reverse, List.reverse_append, List.reverse_cons, List.append_assoc] at turned
    refine ⟨part.reverse, ?_⟩
    rw [turned]
    exact .after fun member => one (List.mem_reverse.mp member)
  · exact ⟨t, .whole dotted⟩

section
variable {scan : ScanSettings} {view : View} {root path : Path} {stem entry part : Text}

theorem kindScript : kind? scan view root path = .ok (some .script) ↔ Suffixed scan path := by
  constructor
  · intro script
    by_contra other
    rcases kindCourse other with ⟨node, outcome, _, _, kind⟩ | kind
    · rw [kind] at script
      cases outcome with
      | error cause => cases script
      | ok line =>
        simp only [Except.bind, lineKind] at script
        split at script
        · cases script
        · split at script <;> cases script
    · rw [kind] at script
      cases script
  · intro suffix
    rw [kind?, if_pos (suffixedIff.mpr suffix)]

theorem endsUnique {suffix : Text} (first : path.EndsIn entry) (second : path.EndsIn suffix) :
    entry = suffix :=
  Option.some.inj ((Path.extensionIff.mpr first).symm.trans (Path.extensionIff.mpr second))

theorem nameSuffixed (some : stem ≠ []) (one : '/' ∉ stem) (one' : '/' ∉ entry)
    (shows : ¬ Blank entry) : IsName (stem ++ '.' :: entry) where
  some := by simp
  one := by simp [one, one']
  here same := by
    have short := congrArg List.length same
    cases stem with
    | nil => exact some rfl
    | cons c rest => simp at short
  up same := by
    cases stem with
    | nil => exact some rfl
    | cons c rest =>
      have short := congrArg List.length same
      cases entry with
      | nil => exact shows (by simp [Blank])
      | cons d more =>
        simp only [List.length_append, List.length_cons, List.length_nil] at short
        omega

theorem joinedEnds (some : stem ≠ []) (one : '/' ∉ stem) (one' : '/' ∉ entry) (shows : ¬ Blank entry)
    (last : LastPart part entry) (directory : Path) :
    (directory.join ⟨stem ++ '.' :: entry⟩).EndsIn part := by
  have name := Path.lastJoined directory (nameSuffixed some one one' shows)
  cases last with
  | whole free => exact ⟨free, stem, some, name⟩
  | @after before free =>
    refine ⟨free, stem ++ '.' :: before, by simp, ?_⟩
    rw [name]
    simp

theorem joinedScript (some : stem ≠ []) (one : '/' ∉ stem) (one' : '/' ∉ entry)
    (shows : ¬ Blank entry) (last : LastPart part entry) (directory : Path) :
    kind? scan view root (directory.join ⟨stem ++ '.' :: entry⟩) = .ok (Option.some .script) ↔
      part ∈ scan.sourceSuffixes := by
  have ends := joinedEnds some one one' shows last directory
  rw [kindScript]
  constructor
  · intro suffix
    obtain ⟨suffix, member, ends'⟩ := suffix
    exact endsUnique ends ends' ▸ member
  · intro member
    exact ⟨part, member, ends⟩

theorem entrySuffixes : (∃ path : Path, path.EndsIn entry) ↔ '.' ∉ entry ∧ '/' ∉ entry := by
  constructor
  · intro ends
    obtain ⟨path, free, stem, some, last⟩ := ends
    have name := Path.memComponents (List.mem_of_getLast? last)
    exact ⟨free, fun member => name.one (by simp [member])⟩
  · intro free
    obtain ⟨free, one⟩ := free
    have name : IsName ('x' :: '.' :: entry) := by
      refine ⟨by simp, by simp [one], by simp, by simp⟩
    exact ⟨(⟨[]⟩ : Path).join ⟨'x' :: '.' :: entry⟩, free, ['x'], by simp, Path.lastJoined _ name⟩

theorem inRootOnly : InRoot { scan with distributedRoots := [entry] } path ↔
    path.components.head? = Option.some (.name entry) := by
  simp [InRoot]

theorem entryRoots :
    (∃ path : Path, path.components.head? = Option.some (.name entry)) ↔ IsName entry := by
  constructor
  · intro begins
    obtain ⟨path, head⟩ := begins
    exact Path.memComponents (List.mem_of_mem_head? head)
  · intro name
    exact ⟨⟨entry⟩, Path.headOwn name⟩

theorem joinedRole (shows : ¬ Blank entry) {q : Path} (relative : q.isAbsolute = false) :
    roleOf scan ((⟨entry⟩ : Path).join q) = .distributed ↔ InRoot scan ⟨entry⟩ := by
  have some : (⟨entry⟩ : Path).text ≠ [] := by
    intro none
    have none : entry = [] := none
    exact shows (by simp [Blank, none])
  rw [roleIff, InRoot, Path.headJoined some relative]
  exact ⟨fun same => same.mp rfl, fun inRoot => iff_of_true rfl inRoot⟩

theorem admitsEntries (accepted : scan.Accepted) (root suffix : Text)
    (undotted : suffix.head? ≠ Option.some '.') :
    ({ scan with
        distributedRoots := root :: scan.distributedRoots
        sourceSuffixes := suffix :: scan.sourceSuffixes } : ScanSettings).Accepted := by
  obtain ⟨entry, there, shows⟩ := accepted.root
  obtain ⟨entry', there', shows'⟩ := accepted.suffix
  exact {
    root := ⟨entry, List.mem_cons_of_mem _ there, shows⟩
    suffix := ⟨entry', List.mem_cons_of_mem _ there', shows'⟩
    undotted := List.forall_mem_cons.mpr ⟨undotted, accepted.undotted⟩
    runtime := accepted.runtime }

theorem acceptedMatch (valid : scan.validate = .ok ()) : EntriesMatch scan where
  roots entry _ shows q relative := joinedRole shows relative
  named entry member name q relative := by
    rw [roleIff, InRoot, Path.headJoined name.some relative, Path.headOwn name]
    simpa using member
  rooted entry _ := by simp only [roleIff, true_iff, inRootOnly, entryRoots]
  suffixes entry _ shows one := by
    obtain ⟨part, last⟩ := lastPart entry
    exact ⟨part, last, fun view root directory stem some one' =>
      joinedScript some one' one shows last directory⟩
  undotted entry member shows one free view root directory stem some one' :=
    (joinedScript some one' one shows (.whole free) directory).mpr member
  suffixed entry _ := by
    simp only [kindScript, Suffixed, List.mem_singleton, exists_eq_left, ← entrySuffixes]
    exact exists_congr fun path =>
      ⟨fun ends => ends (fun _ => .error .notFound) path, fun ends _ _ => ends⟩
  admitted root suffix undotted :=
    ScanSettings.validateIff.mpr (admitsEntries (ScanSettings.validateIff.mp valid) root suffix undotted)

end
end GemSurvey.Selection

namespace GemSurvey.Sample

def misformed : ScanSettings where
  distributedRoots := ["lib/", "bin"]
  sourceSuffixes := ["rb", "html.erb"]

end GemSurvey.Sample

namespace GemSurvey.Selection
open GemSurvey.Path (IsName)
open Text (Blank)

theorem sampleMatch : Sample.misformed.validate = .ok () ∧ EntriesMatch Sample.misformed := by
  have valid : Sample.misformed.validate = .ok () := by decide +kernel
  exact ⟨valid, acceptedMatch valid⟩

theorem misformedUnmatched :
    (¬ ∀ scan : ScanSettings, scan.validate = .ok () →
      ∀ entry ∈ scan.distributedRoots, ¬ Blank entry → ∀ q : Path, q.isAbsolute = false →
        roleOf scan ((⟨entry⟩ : Path).join q) = .distributed) ∧
    ¬ ∀ scan : ScanSettings, scan.validate = .ok () →
      ∀ entry ∈ scan.sourceSuffixes, ¬ Blank entry →
        ∀ (view : View) (root directory : Path) (stem : Text), stem ≠ [] → IsName (stem ++ '.' :: entry) →
          kind? scan view root (directory.join ⟨stem ++ '.' :: entry⟩) = .ok (some .script) := by
  have valid : Sample.misformed.validate = .ok () := by decide +kernel
  refine ⟨fun always => ?_, fun always => ?_⟩
  · have role := always Sample.misformed valid "lib/" (by decide)
      ((ScanSettings.blankTrimmed _).not.mp (by decide +kernel)) "own.rb" (by decide +kernel)
    have auxiliary : roleOf Sample.misformed ((⟨"lib/".toList⟩ : Path).join ⟨"own.rb".toList⟩) =
        .auxiliary := by decide +kernel
    rw [auxiliary] at role
    cases role
  · have name : IsName ("index" ++ '.' :: "html.erb".toList) :=
      ⟨by decide, by decide, by decide, by decide⟩
    have kind := always Sample.misformed valid "html.erb" (by decide)
      ((ScanSettings.blankTrimmed _).not.mp (by decide +kernel)) Sample.executables "/w" "lib" "index"
      (by decide) name
    have nothing : kind? Sample.misformed Sample.executables "/w"
        ((⟨"lib".toList⟩ : Path).join ⟨"index.html.erb".toList⟩) = .ok none := by decide +kernel
    exact absurd (kind.symm.trans nothing) (by decide)

end GemSurvey.Selection
