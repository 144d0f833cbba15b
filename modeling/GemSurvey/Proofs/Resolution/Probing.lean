import GemSurvey.Proofs.Output
import GemSurvey.Proofs.Resolution.Requirement

/-! What a command tells of its version, and what is known of a command once it is probed. Of the
places where a version can stand the first that shows something is taken. -/
namespace GemSurvey

def Ledger.Adds (l next : Ledger) (r : Record) : Prop :=
  next.get? r.key = some r ∧ ∀ key, key ≠ r.key → next.get? key = l.get? key

theorem Ledger.addsRecord {l next : Ledger} {r : Record}
    (records : ∀ x, x ∈ next.records ↔ x = r ∨ x ∈ l.records) : l.Adds next r := by
  refine ⟨getIff.mpr ⟨(records r).mpr (.inl rfl), rfl⟩, fun key other => ?_⟩
  refine Option.ext fun held => ?_
  rw [getIff, getIff, records]
  constructor
  · rintro ⟨rfl | there, same⟩
    · exact absurd same.symm other
    · exact ⟨there, same⟩
  · rintro ⟨there, same⟩
    exact ⟨.inr there, same⟩

namespace Requirement

def stderrOf (answer : Except IoFault Output) : Text :=
  match answer with
  | .ok o => o.stderr
  | .error _ => []

inductive Told (long short : Except IoFault Output) (version : Text) : Prop where
  | line (first : Text.FirstLine version (stdoutOf long))
  | word (silent : Text.Blank (stdoutOf long)) (last : Text.LastWord version (stdoutOf short))
  | complaint (silent : Text.Blank (stdoutOf long)) (mute : Text.Blank (stdoutOf short))
      (last : Text.LastWord version (stderrOf short))

theorem Told.oneLine {long short : Except IoFault Output} {version : Text}
    (told : Told long short version) : Text.OneLine version := by
  cases told with
  | line first => exact first.oneLine
  | word _ last => exact last.oneLine
  | complaint _ _ last => exact last.oneLine

theorem lastCombined {answer : Except IoFault Output} (mute : Text.Blank (stdoutOf answer)) :
    Text.lastWord? (combinedOf answer) = Text.lastWord? (stderrOf answer) := by
  cases answer with
  | error cause => rfl
  | ok o =>
    have none : Text.lastWord? o.stdout = none := Text.lastWordNone.mpr mute
    simp only [combinedOf, stderrOf, o.combinedLast, none, Option.or_none]

section
variable (tools : Tools) (which : Text) (past : List Call) (command : Text)

def Present : Prop := ∃ o, tools.run past which [command] = .ok o ∧ o.success = true

def long : Except IoFault Output := tools.run (past ++ [.run which [command]]) command ["--version"]

def short : Except IoFault Output :=
  tools.run (past ++ [.run which [command], .run command ["--version"]]) command ["-v"]

end

section
variable {tools : Tools} {which : Text} {past : List Call} {command version : Text}

theorem presentIff : succeeded (tools.run past which [command]) = true ↔
    Present tools which past command := by
  unfold Present
  cases tools.run past which [command] <;> simp [succeeded]

theorem probedTold (s : Session) : (probeVersion tools command s).1 = some version ↔
    Told (tools.run s.calls command ["--version"])
      (tools.run (s.calls ++ [.run command ["--version"]]) command ["-v"]) version := by
  unfold probeVersion
  simp only [Session.run]
  generalize tools.run s.calls command ["--version"] = long
  generalize tools.run (s.calls ++ [.run command ["--version"]]) command ["-v"] = short
  cases first : Text.firstLine? (stdoutOf long) with
  | some line =>
    have shows : ¬ Text.Blank (stdoutOf long) := fun silent => by
      simp [Text.firstLineNone.mpr silent] at first
    constructor
    · intro same
      cases same
      exact .line (Text.firstLineIff.mp first)
    · intro told
      cases told with
      | line found => exact first.symm.trans found.found
      | word silent _ => exact absurd silent shows
      | complaint silent _ _ => exact absurd silent shows
  | none =>
    have silent := Text.firstLineNone.mp first
    cases last : Text.lastWord? (stdoutOf short) with
    | some word =>
      have shows : ¬ Text.Blank (stdoutOf short) := fun mute => by
        simp [Text.lastWordNone.mpr mute] at last
      constructor
      · intro same
        cases same
        exact .word silent (Text.lastWordIff.mp last)
      · intro told
        cases told with
        | line found => simp [found.found] at first
        | word _ found => exact last.symm.trans found.found
        | complaint _ mute _ => exact absurd mute shows
    | none =>
      have mute := Text.lastWordNone.mp last
      simp only [Option.none_or, lastCombined mute]
      constructor
      · intro found
        exact .complaint silent mute (Text.lastWordIff.mp found)
      · intro told
        cases told with
        | line found => simp [found.found] at first
        | word _ found => simp [found.found] at last
        | complaint _ _ found => exact found.found

theorem versionAtIff : versionAt? tools which command past = some version ↔
    Present tools which past command ∧
      Told (long tools which past command) (short tools which past command) version := by
  rw [← presentIff]
  unfold versionAt? probe
  by_cases present : succeeded (tools.run past which [command]) = true
  · have told := @probedTold tools command version { calls := past ++ [.run which [command]] }
    rw [List.append_assoc] at told
    simp only [Session.run, present, if_true, true_and, probed]
    exact told
  · simp [Session.run, present, probed]

theorem probeAbsent {s : Session} (absent : ¬ Present tools which s.calls command) :
    (probe tools which command s).2.calls = s.calls ++ [.run which [command]] := by
  have unfit : ¬ succeeded (tools.run s.calls which [command]) = true := mt presentIff.mp absent
  simp [probe, Session.run, unfit]

structure Probes (tools : Tools) (which command : Text) (s : Session)
    (result : Except Conflict Requirement) (after : Session) : Prop where
  absent : ¬ Present tools which s.calls command →
    after.calls = s.calls ++ [.run which [command]] ∧
    result = .ok ⟨fallback, s.versions.version? (commandKey fallback)⟩ ∧
    s.versions.Adds after.versions ⟨commandKey command, none, .notFound⟩
  told : ∀ version, Present tools which s.calls command →
    Told (long tools which s.calls command) (short tools which s.calls command) version →
    result = .ok ⟨command, some version⟩ ∧
    s.versions.Adds after.versions ⟨commandKey command, some version, .commandProbe⟩
  silent : Present tools which s.calls command →
    (∀ version,
      ¬ Told (long tools which s.calls command) (short tools which s.calls command) version) →
    result = .ok ⟨fallback, s.versions.version? (commandKey fallback)⟩ ∧
    s.versions.Adds after.versions ⟨commandKey command, none, .notFound⟩
  oneLine : ∀ version,
    Told (long tools which s.calls command) (short tools which s.calls command) version →
    Text.OneLine version
  succeeds : ∃ found, result = .ok found

/-- A record without a version leaves the fallback's version as it is, also where it is the
fallback's own. -/
theorem addedFallback {l next : Ledger} (absent : l.get? (commandKey command) = none)
    (adds : l.Adds next (probed command none)) :
    next.version? (commandKey fallback) = l.version? (commandKey fallback) := by
  unfold Ledger.version?
  by_cases same : commandKey fallback = commandKey command
  · rw [same, absent, show next.get? (commandKey command) = some (probed command none) from adds.1]
    rfl
  · rw [adds.2 _ same]

theorem resolvedProbed {s : Session} (unasked : s.requirements.lookup command = none)
    (absent : s.versions.get? (commandKey command) = none) :
    (resolve tools which command s).1 = .ok (settle (s.versions.version? (commandKey fallback))
      command (versionAt? tools which command s.calls)) ∧
    s.versions.Adds (resolve tools which command s).2.versions
      (probed command (versionAt? tools which command s.calls)) ∧
    (resolve tools which command s).2.calls = (probe tools which command s).2.calls := by
  have course := resolved tools which command s
  rcases result : resolve tools which command s with ⟨found, next⟩
  rw [result] at course
  cases course with
  | known memo => simp [unasked] at memo
  | held _ there => simp [absent] at there
  | @probed versions after _ _ records same =>
    subst same
    have adds := Ledger.addsRecord records
    refine ⟨?_, adds, rfl⟩
    cases version : versionAt? tools which command s.calls with
    | some v => rfl
    | none =>
      rw [version] at adds
      exact congrArg Except.ok (ofVersionSettled (addedFallback absent adds) command none)

theorem commandProbed {s : Session} (unasked : s.requirements.lookup command = none)
    (absent : s.versions.get? (commandKey command) = none) :
    Probes tools which command s (resolve tools which command s).1
      (resolve tools which command s).2 := by
  obtain ⟨result, adds, calls⟩ := @resolvedProbed tools which command s unasked absent
  have read {version : Text} := @versionAtIff tools which s.calls command version
  have unread (none : ∀ version, ¬ (Present tools which s.calls command ∧
      Told (long tools which s.calls command) (short tools which s.calls command) version)) :
      versionAt? tools which command s.calls = .none :=
    Option.eq_none_iff_forall_ne_some.mpr fun version found => none version (read.mp found)
  refine ⟨fun missing => ?_, fun version present told => ?_, fun _ silent => ?_,
    fun _ told => told.oneLine, ⟨_, result⟩⟩
  · rw [unread fun _ both => missing both.1] at result adds
    exact ⟨calls.trans (probeAbsent missing), result, adds⟩
  · rw [read.mpr ⟨present, told⟩] at result adds
    exact ⟨result, adds⟩
  · rw [unread fun version both => silent version both.2] at result adds
    exact ⟨result, adds⟩

end
end Requirement

namespace Sample

def complaining : Tools := .steady (fun _ => .ok []) fun program arguments =>
  if program = ("which" : Text) then .ok ⟨[], [], arguments = ["mute"]⟩
  else if arguments = ["-v"] then .ok ⟨" \t", "mute: version\n 9.9 \n", false⟩
  else .ok ⟨"\n \n", "mute 1.0", false⟩

end Sample

theorem Requirement.sampleProbed :
    (resolve Sample.complaining "which" "mute" {}).1 = .ok ⟨"mute", some "9.9"⟩ ∧
    Ledger.empty.Adds (resolve Sample.complaining "which" "mute" {}).2.versions
      ⟨commandKey "mute", some "9.9", .commandProbe⟩ := by
  have silent : Text.Blank "\n \n" := List.all_eq_true.mp (by decide +kernel)
  have mute : Text.Blank " \t" := List.all_eq_true.mp (by decide +kernel)
  have last : Text.LastWord "9.9" "mute: version\n 9.9 \n" :=
    Text.lastWordIff.mp (by decide +kernel)
  have probes := @commandProbed Sample.complaining "which" "mute" {} rfl rfl
  exact probes.told "9.9" ⟨⟨[], [], true⟩, rfl, rfl⟩ (.complaint silent mute last)

end GemSurvey
