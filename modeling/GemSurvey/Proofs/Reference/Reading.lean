import GemSurvey.Proofs.Text.Cutting
import GemSurvey.Reference.Emission

/-! What a reader yields, one item at a time. Its items are those of its lines in their order, up
to the first line that cannot be read, and once it has yielded them it yields nothing more. -/
namespace GemSurvey.Emission

def fromLine (file : SourceFile) (number : Nat) (line : Text) : List Emitted :=
  match Line.match? line with
  | some (kind, name) => [.reference ⟨kind, name, file.path, file.role, number⟩]
  | none => []

def fromLines (file : SourceFile) (ending : Option IoFault) : Nat → List Bytes → List Emitted
  | number, [] => match ending with
      | some cause => [.problem (.about file.path (atLine number cause.message))]
      | none => []
  | number, line :: rest =>
      match Text.decode? line with
      | some t => fromLine file number t ++ fromLines file ending (number + 1) rest
      | none => [.problem (.about file.path (atLine number IoFault.notText.message))]

namespace Reader

def past : Nat → Reader → Reader
  | 0, r => r
  | count + 1, r => past count r.next.2

def Yields (r : Reader) (items : List Emitted) : Prop :=
  ∀ count, (r.past count).next.1 = items[count]?

section
variable {file : SourceFile} {number : Nat} {rest : List (Except IoFault Text)} {r : Reader}

theorem readOnSpent (spent : (readOn file number rest).1 = none) :
    (readOn file number rest).2.unread = .nothing := by
  induction rest generalizing number with
  | nil => rfl
  | cons line rest ih => cases line with
    | error cause => rfl
    | ok line =>
      rw [readOn] at spent ⊢
      split
      · rename_i matched
        simp [matched] at spent
      · rename_i unmatched
        exact ih (by simpa only [unmatched] using spent)

theorem nextSpent (spent : r.next.1 = none) : r.next.2.next.1 = none := by
  have nothing : r.next.2.unread = .nothing := by
    unfold next at spent ⊢
    split
    · rename_i lines
      exact readOnSpent (by simpa only [lines] using spent)
    · rename_i failed
      simp [failed] at spent
    · rename_i nothing
      exact nothing
  rw [next, nothing]

theorem pastSpent (spent : r.next.1 = none) (count : Nat) : (r.past count).next.1 = none := by
  induction count generalizing r with
  | zero => exact spent
  | succ count ih => exact ih (nextSpent spent)

theorem yieldsItems (r : Reader) : r.Yields r.items := by
  fun_induction items r with
  | case1 r item after found ih =>
    intro count
    cases count with
    | zero => simp [past, found]
    | succ count => simpa [past, found] using ih count
  | case2 r after found =>
    intro count
    exact pastSpent (by rw [found]) count

theorem itemsNext {item : Emitted} {after : Reader} (found : r.next = (some item, after)) :
    r.items = item :: after.items := by
  rw [items]
  split
  · rename_i found'
    cases found.symm.trans found'
    rfl
  · rename_i found'
    cases found.symm.trans found'

theorem itemsSpent (spent : r.next.1 = none) : r.items = [] := by
  rw [items]
  split
  · rename_i found
    rw [found] at spent
    cases spent
  · rfl

theorem itemsLast {item : Emitted} (found : r.next = (some item, ⟨file, .nothing, number⟩)) :
    r.items = [item] := by
  rw [itemsNext found, itemsSpent rfl]

theorem itemsLine (line : Text) : items ⟨file, .lines (.ok line :: rest), number⟩ =
    fromLine file (number + 1) line ++ items ⟨file, .lines rest, number + 1⟩ := by
  unfold fromLine
  cases matched : Line.match? line with
  | some found => exact itemsNext (by simp only [next, readOn, matched])
  | none =>
    have same : next ⟨file, .lines (.ok line :: rest), number⟩ =
        next ⟨file, .lines rest, number + 1⟩ := by simp only [next, readOn, matched]
    rw [items, same, List.nil_append]
    conv => rhs; rw [items]

theorem itemsLines (ending : Option IoFault) (lines : List Bytes) :
    items ⟨file, .lines (lines.map lineRead ++ ending.toList.map .error), number⟩ =
      fromLines file ending (number + 1) lines := by
  induction lines generalizing number with
  | nil => cases ending with
    | none => exact itemsSpent rfl
    | some cause => exact itemsLast rfl
  | cons line rest ih =>
    rw [List.map_cons, List.cons_append, fromLines, lineRead]
    cases Text.decode? line with
    | none => exact itemsLast rfl
    | some t => rw [itemsLine, ih]

end
end Reader

theorem fromFileLines (view : View) (root : Path) (file : SourceFile) :
    fromFile view root file = match view (root.join file.path) with
      | .ok (.file content _) => fromLines file none 1 (byteLines content)
      | .ok (.broken content _ cause) => fromLines file (some cause) 1 (byteLines (ended content))
      | .ok .directory => fromLines file (some .isDirectory) 1 []
      | .ok (.sealed cause) | .ok (.locked _ cause) | .error cause =>
          [.problem (.about file.path cause.message)] := by
  unfold fromFile Reader.ofFile
  match view (root.join file.path) with
  | .ok (.file content _) =>
    have lines := @Reader.itemsLines file 0 none (byteLines content)
    rw [Option.toList_none, List.map_nil, List.append_nil] at lines
    exact lines
  | .ok (.broken content _ cause) => exact Reader.itemsLines (some cause) (byteLines (ended content))
  | .ok .directory => exact Reader.itemsLines (some .isDirectory) []
  | .ok (.sealed cause) => exact Reader.itemsLast rfl
  | .ok (.locked _ cause) => exact Reader.itemsLast rfl
  | .error cause => exact Reader.itemsLast rfl

theorem fileYields (view : View) (root : Path) (file : SourceFile) :
    (Reader.ofFile view root file).Yields (fromFile view root file) :=
  Reader.yieldsItems _

/-- A content in lines: each ends at a newline and gives up one return before it, and what follows
the last newline is a line unless it is nothing. -/
inductive Divided : Bytes → List Bytes → Prop where
  | nothing : Divided [] []
  | unended {line} (unmarked : 10 ∉ line) (some : line ≠ []) : Divided line [line]
  | ended {line rest lines} (unmarked : 10 ∉ line) (plain : line.getLast? ≠ some 13)
      (tail : Divided rest lines) : Divided (line ++ 10 :: rest) (line :: lines)
  | returned {line rest lines} (unmarked : 10 ∉ line) (tail : Divided rest lines) :
      Divided (line ++ 13 :: 10 :: rest) (line :: lines)

theorem divides (content : Bytes) : ∃ lines, Divided content lines := by
  induction Text.lined (· == 10) content with
  | @last line unmarked => cases line with
    | nil => exact ⟨[], .nothing⟩
    | cons c more => exact ⟨[c :: more], .unended (Text.unmarkedIff.mp unmarked) (by simp)⟩
  | @line line rest mark unmarked marked tail ih =>
    cases eq_of_beq marked
    obtain ⟨lines, divided⟩ := ih
    have clear := Text.unmarkedIff.mp unmarked
    by_cases ret : line.getLast? = some 13
    · obtain ⟨start, rfl⟩ := List.getLast?_eq_some_iff.mp ret
      rw [List.append_assoc]
      exact ⟨start :: lines, .returned (fun inside => clear (List.mem_append_left _ inside)) divided⟩
    · exact ⟨line :: lines, .ended clear ret divided⟩

theorem Divided.byteLines {content : Bytes} {lines : List Bytes} (divided : Divided content lines) :
    byteLines content = lines := by
  unfold Emission.byteLines
  induction divided with
  | nothing => rfl
  | unended unmarked some =>
    rw [Text.linesByLast (Text.unmarkedIff.mpr unmarked)]
    simp [some]
  | @ended line rest lines unmarked plain tail ih =>
    have kept : Text.dropLastIf (· == 13) line = line := by
      rcases Text.dropLastForm (· == 13) line with same | ⟨last, isReturn, same⟩
      · exact same
      · cases eq_of_beq isReturn
        exact absurd (List.getLast?_eq_some_iff.mpr ⟨_, same⟩) plain
    rw [Text.linesByLine (Text.unmarkedIff.mpr unmarked) rfl, kept, ih]
  | @returned line rest lines unmarked tail ih =>
    have whole : line ++ 13 :: 10 :: rest = (line ++ [13]) ++ 10 :: rest := by simp
    have clear : 10 ∉ line ++ [13] := by simpa using unmarked
    have dropped : Text.dropLastIf (· == 13) (line ++ [13]) = line := by simp [Text.dropLastIf]
    rw [whole, Text.linesByLine (Text.unmarkedIff.mpr clear) rfl, dropped, ih]

theorem dividedIff {content : Bytes} {lines : List Bytes} :
    Divided content lines ↔ byteLines content = lines := by
  refine ⟨Divided.byteLines, ?_⟩
  rintro rfl
  obtain ⟨lines, divided⟩ := divides content
  rwa [divided.byteLines]

def references (file : SourceFile) (number : Nat) (texts : List Text) : List Emitted :=
  (texts.zipIdx number).flatMap fun (t, number) => fromLine file number t

def problemAt (file : SourceFile) (number : Nat) (cause : IoFault) : Emitted :=
  .problem (.about file.path (atLine number cause.message))

section
variable {file : SourceFile} {ending : Option IoFault} {number : Nat}

theorem referencesCons (t : Text) (texts : List Text) : references file number (t :: texts) =
    fromLine file number t ++ references file (number + 1) texts := by
  unfold references
  rw [List.zipIdx_cons, List.flatMap_cons]

theorem fromTexts {lines : List Bytes} {texts : List Text}
    (read : lines.map Text.decode? = texts.map some) (later : List Bytes) :
    fromLines file ending number (lines ++ later) =
      references file number texts ++ fromLines file ending (number + texts.length) later := by
  induction lines generalizing number texts with
  | nil =>
    cases List.map_eq_nil_iff.mp read.symm
    rfl
  | cons line rest ih => cases texts with
    | nil => cases read
    | cons t more =>
      obtain ⟨here, read⟩ := List.cons.inj read
      rw [List.cons_append, fromLines, here, referencesCons, List.append_assoc, List.length_cons]
      simp only [ih read, Nat.add_assoc, Nat.add_comm 1]

end

structure ReadThrough (file : SourceFile) (content : Bytes) (ending : Option IoFault)
    (r : Reader) : Prop where
  lines : ∃ lines, Divided content lines
  whole : ∀ lines texts, Divided content lines → lines.map Text.decode? = texts.map some →
    r.Yields (references file 1 texts ++ ending.toList.map (problemAt file (texts.length + 1)))
  torn : ∀ before line more texts, Divided content (before ++ line :: more) →
    before.map Text.decode? = texts.map some → Text.decode? line = none →
    r.Yields (references file 1 texts ++ [problemAt file (texts.length + 1) .notText])

theorem readThrough {file : SourceFile} {content : Bytes} {ending : Option IoFault} {r : Reader}
    (yields : r.Yields (fromLines file ending 1 (byteLines content))) :
    ReadThrough file content ending r where
  lines := divides content
  whole lines texts divided read := by
    have all := @fromTexts file ending 1 _ _ read []
    rw [List.append_nil, Nat.add_comm 1] at all
    rw [divided.byteLines, all] at yields
    cases ending <;> exact yields
  torn before line more texts divided read broken := by
    rw [divided.byteLines, fromTexts read, fromLines, broken, Nat.add_comm 1] at yields
    exact yields

theorem readsFile (view : View) (root : Path) (file : SourceFile) :
    match view (root.join file.path) with
    | .ok (.file content _) => ReadThrough file content none (.ofFile view root file)
    | .ok (.broken content _ cause) =>
        ReadThrough file (ended content) (some cause) (.ofFile view root file)
    | .ok .directory => ReadThrough file [] (some .isDirectory) (.ofFile view root file)
    | .ok (.sealed cause) | .ok (.locked _ cause) | .error cause =>
        (Reader.ofFile view root file).Yields [.problem (.about file.path cause.message)] := by
  have yields := fileYields view root file
  rw [fromFileLines] at yields
  match found : view (root.join file.path) with
  | .ok (.file content _) =>
    rw [found] at yields
    exact readThrough yields
  | .ok (.broken content _ cause) =>
    rw [found] at yields
    exact readThrough yields
  | .ok .directory =>
    rw [found] at yields
    exact readThrough yields
  | .ok (.sealed cause) =>
    rw [found] at yields
    exact yields
  | .ok (.locked _ cause) =>
    rw [found] at yields
    exact yields
  | .error cause =>
    rw [found] at yields
    exact yields

end GemSurvey.Emission

namespace GemSurvey
namespace Sample

def ownFile : SourceFile := ⟨"lib/own.rb", .distributed, .script⟩

def mixedLines : Bytes :=
  Text.encode "require 'json'\r\n\n\x60git log\x60\n" ++ [0xff, 10] ++ Text.encode "require 'late'"

def mixedView : View := fun _ => .ok (.file mixedLines false)

end Sample

theorem Emission.sampleReads : (Reader.ofFile Sample.mixedView "/w" Sample.ownFile).Yields [
    .reference ⟨.library, "json", "lib/own.rb", .distributed, 1⟩,
    .reference ⟨.command, "git", "lib/own.rb", .distributed, 3⟩,
    .problem ⟨some "lib/own.rb", "line 4: stream did not contain valid UTF-8"⟩] := by
  have through : ReadThrough Sample.ownFile Sample.mixedLines none
      (.ofFile Sample.mixedView "/w" Sample.ownFile) :=
    readsFile Sample.mixedView "/w" Sample.ownFile
  have items := through.torn
    [Text.encode "require 'json'", [], Text.encode "\x60git log\x60"] [0xff] [Text.encode "require 'late'"]
    ["require 'json'".toList, [], "\x60git log\x60".toList]
    (dividedIff.mpr (by decide +kernel)) (by decide +kernel) (by decide +kernel)
  have same : references Sample.ownFile 1 ["require 'json'".toList, [], "\x60git log\x60".toList] = [
      .reference ⟨.library, "json", "lib/own.rb", .distributed, 1⟩,
      .reference ⟨.command, "git", "lib/own.rb", .distributed, 3⟩] := by decide +kernel
  rw [same] at items
  exact items

end GemSurvey
