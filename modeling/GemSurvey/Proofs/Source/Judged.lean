import GemSurvey.Proofs.Path.Name
import GemSurvey.Proofs.Reference.Readable
import GemSurvey.Proofs.Settings
import GemSurvey.Source.Selection

/-! How each tracked path is judged. A name with a configured suffix is a script whatever is there; any
other path counts only as an executable file, by its first line, and a line that cannot be read is a
problem of that path. There is at most one item for each path, in the order of the paths. The way up
ends in a dot too, but has no suffix. -/
namespace GemSurvey.Selection

def Suffixed (scan : ScanSettings) (path : Path) : Prop :=
  ∃ suffix ∈ scan.sourceSuffixes, path.EndsIn suffix

def InRoot (scan : ScanSettings) (path : Path) : Prop :=
  ∃ root ∈ scan.distributedRoots, path.components.head? = some (.name root)

inductive FirstLine : Bytes → Bytes → Prop where
  | only {line} (unmarked : 10 ∉ line) : FirstLine line line
  | ended {line rest} (unmarked : 10 ∉ line) : FirstLine (line ++ 10 :: rest) line

inductive Reads : Node → Except IoFault Bytes → Prop where
  | file {content line} (first : FirstLine content line) : Reads (.file content true) (.ok line)
  | sound {line rest cause} (unmarked : 10 ∉ line) :
      Reads (.broken (line ++ 10 :: rest) true cause) (.ok line)
  | broken {content cause} (unmarked : 10 ∉ content) :
      Reads (.broken content true cause) (.error cause)
  | locked {cause} : Reads (.locked true cause) (.error cause)

inductive Judged (scan : ScanSettings) (view : View) (root path : Path) : Selected → Prop where
  | script {role} (part : role = .distributed ↔ InRoot scan path) (suffix : Suffixed scan path) :
      Judged scan view root path (.source ⟨path, role, .script⟩)
  | shebang {role node line t} (part : role = .distributed ↔ InRoot scan path)
      (other : ¬ Suffixed scan path) (found : view (root.join path) = .ok node)
      (first : Reads node (.ok line)) (text : Text.decode? line = some t)
      (opens : Shebang.Opens scan.shebangRuntime (Text.trimEnd t)) :
      Judged scan view root path (.source ⟨path, role, .shebang⟩)
  | garbled {node line} (other : ¬ Suffixed scan path) (found : view (root.join path) = .ok node)
      (first : Reads node (.ok line)) (text : Text.decode? line = none) :
      Judged scan view root path (.refused (.about path IoFault.notText.message))
  | unread {node cause} (other : ¬ Suffixed scan path) (found : view (root.join path) = .ok node)
      (first : Reads node (.error cause)) :
      Judged scan view root path (.refused (.about path cause.message))

inductive Selects (scan : ScanSettings) (view : View) (root : Path) :
    List Path → List Selected → Prop where
  | nil : Selects scan view root [] []
  | taken {path item paths items} (judged : Judged scan view root path item)
      (tail : Selects scan view root paths items) :
      Selects scan view root (path :: paths) (item :: items)
  | passed {path paths items} (nothing : ∀ item, ¬ Judged scan view root path item)
      (tail : Selects scan view root paths items) : Selects scan view root (path :: paths) items

section
variable {scan : ScanSettings} {view : View} {root path : Path} {node : Node}
  {content line : Bytes} {outcome : Except IoFault Bytes}

theorem suffixedIff : hasSuffix scan path = true ↔ Suffixed scan path := by
  unfold hasSuffix Suffixed
  simp only [Option.any_eq_true, List.contains_iff_mem, Path.extensionIff]
  exact exists_congr fun _ => and_comm

theorem roleIff {role : Role} :
    roleOf scan path = role ↔ (role = .distributed ↔ InRoot scan path) := by
  have distributed : roleOf scan path = .distributed ↔ InRoot scan path := by
    unfold roleOf InRoot
    match path.components.head? with
    | none => simp
    | some .root => simp
    | some .here => simp
    | some .up => simp
    | some (.name first) => simp
  rw [← distributed]
  cases roleOf scan path <;> cases role <;> simp

theorem FirstLine.unmarked (first : FirstLine content line) : 10 ∉ line := by
  cases first with
  | only unmarked => exact unmarked
  | ended unmarked => exact unmarked

theorem Reads.unmarked (first : Reads node (.ok line)) : 10 ∉ line := by
  cases first with
  | file first => exact first.unmarked
  | sound unmarked => exact unmarked

theorem firstLineOf (content : Bytes) : ∃ line, FirstLine content line := by
  cases Text.lined (· == 10) content with
  | last unmarked => exact ⟨_, .only (Text.unmarkedIff.mp unmarked)⟩
  | line unmarked mark =>
    cases eq_of_beq mark
    exact ⟨_, .ended (Text.unmarkedIff.mp unmarked)⟩

def lineKind (scan : ScanSettings) (line : Bytes) : Except IoFault (Option SourceKind) :=
  match Text.decode? line with
  | none => .error .notText
  | some t =>
      .ok (if Shebang.names scan.shebangRuntime (Text.trimEnd t) then some .shebang else none)

theorem kindOfFirst (first : FirstLine content line) : kindOf scan content = lineKind scan line := by
  unfold kindOf readsAsScript lineKind
  cases first with
  | only unmarked =>
    rw [Emission.firstLineLast (Text.unmarkedIff.mpr unmarked)]
    cases Text.decode? content <;> rfl
  | ended unmarked =>
    rw [Emission.firstLineLine (Text.unmarkedIff.mpr unmarked), Text.decodeSnoc line (by decide)]
    cases Text.decode? line with
    | none => rfl
    | some t =>
      have ended : Text.trimEnd (t ++ ['\n']) = Text.trimEnd t :=
        Text.trimEndBlank t (by simpa [Text.Blank] using Text.newlineBlank)
      exact congrArg (fun t => Except.ok (if Shebang.names scan.shebangRuntime t then _ else _)) ended

theorem kindFound (other : ¬ Suffixed scan path) (found : view (root.join path) = .ok node)
    (first : Reads node outcome) :
    kind? scan view root path = outcome.bind (lineKind scan) := by
  unfold kind?
  rw [if_neg (suffixedIff.not.mpr other), found]
  cases first with
  | file first => exact kindOfFirst first
  | @sound line rest cause unmarked =>
    have marked : (line ++ 10 :: rest).contains 10 = true := by simp
    exact (if_pos marked).trans (kindOfFirst (.ended unmarked))
  | broken unmarked => exact if_neg (by simpa using unmarked)
  | locked => rfl

theorem kindNothing (other : ¬ Suffixed scan path)
    (nothing : ∀ node outcome, view (root.join path) = .ok node → ¬ Reads node outcome) :
    kind? scan view root path = .ok none := by
  unfold kind?
  rw [if_neg (suffixedIff.not.mpr other)]
  split
  · rename_i content found
    obtain ⟨line, first⟩ := firstLineOf content
    exact absurd (.file first) (nothing _ _ found)
  · rename_i found
    exact absurd .locked (nothing _ _ found)
  · rename_i content cause found
    obtain ⟨line, first⟩ := firstLineOf content
    cases first with
    | only unmarked => exact absurd (.broken unmarked) (nothing _ _ found)
    | ended unmarked => exact absurd (.sound unmarked) (nothing _ _ found)
  · rfl

theorem kindCourse (other : ¬ Suffixed scan path) :
    (∃ node outcome, view (root.join path) = .ok node ∧ Reads node outcome ∧
      kind? scan view root path = outcome.bind (lineKind scan)) ∨
    kind? scan view root path = .ok none := by
  by_cases reads : ∃ node outcome, view (root.join path) = .ok node ∧ Reads node outcome
  · obtain ⟨node, outcome, there, first⟩ := reads
    exact .inl ⟨node, outcome, there, first, kindFound other there first⟩
  · refine .inr (kindNothing other fun node outcome there first => ?_)
    exact reads ⟨node, outcome, there, first⟩

theorem kindOpens (named : Shebang.IsRuntime scan.shebangRuntime) (unmarked : 10 ∉ line) {t : Text}
    (text : Text.decode? line = some t) :
    Shebang.names scan.shebangRuntime (Text.trimEnd t) = true ↔
      Shebang.Opens scan.shebangRuntime (Text.trimEnd t) :=
  Shebang.namesIff named fun newline =>
    Text.newlineDecoded text unmarked ((Text.trimEndStarts t).subset newline)

theorem judgedIff (accepted : scan.Accepted) {item : Selected} :
    Judged scan view root path item ↔ classify scan view root path = some item := by
  have named := accepted.isRuntime
  constructor
  · intro judged
    unfold classify
    cases judged with
    | script part suffix => simp [kind?, suffixedIff.mpr suffix, roleIff.mpr part]
    | shebang part other found first text opens =>
      have names := (kindOpens named first.unmarked text).mpr opens
      simp [kindFound other found first, lineKind, text, names, Except.bind, roleIff.mpr part]
    | garbled other found first text =>
      simp [kindFound other found first, lineKind, text, Except.bind]
    | unread other found first => simp [kindFound other found first, Except.bind]
  · intro found
    unfold classify at found
    by_cases suffix : Suffixed scan path
    · simp only [kind?, suffixedIff.mpr suffix, if_true] at found
      cases found
      exact .script (roleIff.mp rfl) suffix
    rcases kindCourse suffix with ⟨node, outcome, there, first, kind⟩ | kind
    · rw [kind] at found
      cases outcome with
      | error cause =>
        cases found
        exact .unread suffix there first
      | ok line =>
        simp only [Except.bind, lineKind] at found
        cases text : Text.decode? line with
        | none =>
          rw [text] at found
          cases found
          exact .garbled suffix there first text
        | some t =>
          have opens := kindOpens named first.unmarked text
          rw [text] at found
          cases names : Shebang.names scan.shebangRuntime (Text.trimEnd t) with
          | false => simp [names] at found
          | true =>
            simp only [names, if_true] at found
            cases found
            exact .shebang (roleIff.mp rfl) suffix there first text (opens.mp names)
    · rw [kind] at found
      cases found

theorem selectsOf (accepted : scan.Accepted) (tracked : List Path) :
    Selects scan view root tracked (select scan view root tracked) := by
  unfold select
  induction tracked with
  | nil => exact .nil
  | cons path paths ih =>
    cases judged : classify scan view root path with
    | none =>
      rw [List.filterMap_cons_none judged]
      exact .passed (fun item other => by simp [(judgedIff accepted).mp other] at judged) ih
    | some item =>
      rw [List.filterMap_cons_some judged]
      exact .taken ((judgedIff accepted).mpr judged) ih

theorem Selects.unique (accepted : scan.Accepted) {tracked : List Path} {items : List Selected}
    (selects : Selects scan view root tracked items) : select scan view root tracked = items := by
  unfold select
  induction selects with
  | nil => rfl
  | taken judged tail ih => rw [List.filterMap_cons_some ((judgedIff accepted).mp judged), ih]
  | @passed path paths items nothing tail ih =>
    cases judged : classify scan view root path with
    | none => rw [List.filterMap_cons_none judged, ih]
    | some item => exact absurd ((judgedIff accepted).mpr judged) (nothing item)

theorem selectedIff (valid : scan.validate = .ok ()) (tracked : List Path)
    (items : List Selected) :
    select scan view root tracked = items ↔ Selects scan view root tracked items := by
  have accepted := ScanSettings.validateIff.mp valid
  constructor
  · intro same
    exact same ▸ selectsOf accepted tracked
  · exact Selects.unique accepted

end
end GemSurvey.Selection

namespace GemSurvey.Sample

def executables : View := fun p =>
  if p.text = ("/w/bin/own" : Text) then
    .ok (.file (Text.encode "#!/usr/bin/env ruby\nrequire 'own'\n".toList) true)
  else if p.text = ("/w/bin/torn" : Text) then .ok (.file [0xff, 10] true)
  else if p.text = ("/w/bin/sealed" : Text) then .ok (.locked true .denied)
  else if p.text = ("/w/.." : Text) then .ok .directory
  else .error .notFound

end GemSurvey.Sample

namespace GemSurvey.Selection

theorem sampleSelected :
    ({} : ScanSettings).validate = .ok () ∧
    Selects {} Sample.executables "/w"
      ["lib/own.rb", "bin/own", "README.md", "bin/torn", "bin/sealed"]
      [.source ⟨"lib/own.rb", .distributed, .script⟩, .source ⟨"bin/own", .distributed, .shebang⟩,
        .refused (.about "bin/torn" "stream did not contain valid UTF-8"),
        .refused (.about "bin/sealed" "Permission denied (os error 13)")] := by
  have valid : ({} : ScanSettings).validate = .ok () := by decide +kernel
  exact ⟨valid, (selectedIff valid _ _).mp (by decide +kernel)⟩

theorem judgedOtherwise :
    (¬ ∀ (scan : ScanSettings) (view : View) (root path : Path) (stem suffix : Text),
      scan.validate = .ok () → stem ≠ [] → '.' ∉ suffix → suffix ∈ scan.sourceSuffixes →
      path.components.getLast?.map Path.componentText = some (stem ++ '.' :: suffix) →
      ∃ role, select scan view root [path] = [.source ⟨path, role, .script⟩]) ∧
    ¬ ∀ (scan : ScanSettings) (view : View) (root path : Path) (problem : Diagnostic),
      scan.validate = .ok () → select scan view root [path] = [.refused problem] →
      ∃ content line, view (root.join path) = .ok (.file content true) ∧ FirstLine content line ∧
        Text.decode? line = none := by
  refine ⟨fun always => ?_, fun always => ?_⟩
  · have nothing : select { sourceSuffixes := ["rb", []] } Sample.executables "/w" [".."] = [] := by
      decide +kernel
    obtain ⟨role, script⟩ := always { sourceSuffixes := ["rb", []] } Sample.executables "/w" ".."
      ['.'] [] (by decide +kernel) (by decide) (by decide) (by decide) (by decide +kernel)
    rw [nothing] at script
    cases script
  · obtain ⟨content, line, found, _⟩ := always {} Sample.executables "/w" "bin/sealed"
      (.about "bin/sealed" "Permission denied (os error 13)") (by decide +kernel) (by decide +kernel)
    have sealed : Sample.executables ((⟨"/w".toList⟩ : Path).join ⟨"bin/sealed".toList⟩) =
        .ok (.locked true .denied) := by decide +kernel
    rw [sealed] at found
    cases found

end GemSurvey.Selection
