import GemSurvey.Proofs.Resolution.Foremost
import GemSurvey.Proofs.Resolution.Library

/-! Where gems are installed. A located file lies in the directory of its gem, and that directory
among others; a name and a version in the path above it are read before those of the gem. -/
namespace GemSurvey.Located
open Line (isTokenChar)
open Text (isWord)

theorem markNoDigit {mark : Char} (outside : isTokenChar mark = false) :
    Text.isDigit mark = false := by
  cases digit : Text.isDigit mark with
  | false => rfl
  | true => simp [isTokenChar, Text.digitWord digit] at outside

section
variable {mark : Char} (outside : isTokenChar mark = false) (noDot : mark ≠ '.')
include outside noDot

theorem versionMarked (major t rest : Text) :
    version? major (t ++ mark :: rest) = version? major t := by
  have noWord : isWord mark = false := (Bool.or_eq_false_iff.mp outside).1
  have noDigit := markNoDigit outside
  match t with
  | [] => simp [version?, noDot]
  | c :: u =>
    by_cases dot : c = '.'
    · subst dot
      obtain ⟨minor, left⟩ := Text.runMarked noDigit u rest
      simp only [List.cons_append, version?, minor, left]
      cases u.dropWhile Text.isDigit with
      | nil => simp [noDot, noWord]
      | cons d tail =>
        obtain ⟨patch, after⟩ := Text.runMarked noDigit tail rest
        simp only [List.cons_append, List.drop_one, List.tail_cons, List.head?_cons, patch, after,
          Text.headMarked noWord]
        congr
    · simp [version?, dot]

theorem parseFromMarked (inRun : Bool) (t rest : Text) :
    parseFrom inRun (t ++ mark :: rest) = (parseFrom inRun t).or (parseFrom false rest) := by
  induction t generalizing inRun with
  | nil => simp [parseFrom, outside]
  | cons c more ih =>
    obtain ⟨run, after⟩ := Text.runMarked outside (c :: more) rest
    rw [List.cons_append] at run after
    simp only [List.cons_append, parseFrom, run, after]
    cases isTokenChar c with
    | false => exact ih false
    | true => cases inRun with
      | true => exact ih true
      | false =>
        have same (run t : Text) : atRun? run (t ++ mark :: rest) = atRun? run t := by
          simp only [atRun?, versionMarked outside noDot]
        simp only [same, Bool.not_true, Bool.false_eq_true, if_false]
        split
        · rfl
        · exact ih true

end

theorem parseNamed {name version release : Text} (token : ∀ c ∈ name, isTokenChar c = true)
    (begins : name.head?.any isWord = true) (form : IsVersion version release) :
    parse? (name ++ '-' :: version) = some (name, version) := by
  obtain ⟨major, more, rfl, number, minor⟩ := form.parts
  have tokens : ∀ c ∈ name ++ '-' :: major, isTokenChar c = true := by
    intro c member
    rcases List.mem_append.mp member with inName | inMajor
    · exact token c inName
    · rcases List.mem_cons.mp inMajor with rfl | digit
      · decide +kernel
      · exact number.token c digit
  obtain ⟨run, after⟩ := Text.runTaken tokens (dotNoToken more)
  have read : version? major ('.' :: more) = some (major ++ '.' :: more) := by
    have outside : (([] : Text).head?).any isWord = false := rfl
    obtain ⟨found, read, starts⟩ := versionWhole number minor outside
    rw [List.append_nil] at read
    obtain ⟨rest, whole, _⟩ := versionBegins read
    rw [read, starts.eq_of_length (Nat.le_antisymm starts.length_le ?_)]
    rw [whole]
    simp
  cases name with
  | nil => cases begins
  | cons c others =>
    have word : isWord c = true := begins
    have noHyphen : (c == '-') = false := by
      refine beq_false_of_ne fun same => ?_
      rw [same, Line.hyphenNoWord] at word
      cases word
    have here : atRun? (c :: others ++ '-' :: major) ('.' :: more) =
        some (c :: others, major ++ '.' :: more) := by
      rw [atRunDivided number.noHyphen, List.dropWhile_cons_of_neg (by simp [noHyphen]), read]
      rfl
    have line : c :: others ++ '-' :: (major ++ '.' :: more) =
        c :: (others ++ '-' :: (major ++ '.' :: more)) := rfl
    have text : (c :: others ++ '-' :: major) ++ '.' :: more =
        c :: (others ++ '-' :: (major ++ '.' :: more)) := by simp
    rw [text] at run after
    simp only [parse?, line, parseFrom, token c List.mem_cons_self, Bool.not_true,
      Bool.false_eq_true, if_false, run, after, here]

def gemPath (directory gem version file : Text) : Text :=
  directory ++ "/gems/" ++ gem ++ "-" ++ version ++ "/lib/" ++ file

theorem parseInstalled {gem version release : Text} (token : ∀ c ∈ gem, isTokenChar c = true)
    (begins : gem.head?.any isWord = true) (form : IsVersion version release)
    (directory file : Text) :
    parse? (gemPath directory gem version file) = (parse? directory).or (some (gem, version)) := by
  have slash : isTokenChar '/' = false := by decide +kernel
  have divided (t rest : Text) : parse? (t ++ '/' :: rest) = (parse? t).or (parse? rest) :=
    parseFromMarked slash (by decide) false t rest
  have path : gemPath directory gem version file =
      directory ++ '/' :: ("gems" ++ '/' :: ((gem ++ '-' :: version) ++ '/' :: ("lib/" ++ file))) := by
    simp [gemPath]
  have gems : parse? "gems" = none := by decide +kernel
  rw [path, divided, divided, divided, gems, parseNamed token begins form]
  rfl

theorem resolvedFresh {package name : Text} {s : Session} (tools : Tools)
    (other : ¬ Library.IsOwn package name) (unasked : s.libraries.lookup name = none)
    (fresh : s.versions = .empty) :
    (Library.resolve package tools name s).1 = .ok (some (Library.foundAt tools s.calls name)) := by
  have course := Library.resolved package tools name s
  rcases result : Library.resolve package tools name s with ⟨found, next⟩
  rw [result] at course
  cases course with
  | own self => exact absurd (Library.isSelfIff.mp self) other
  | known _ memo => simp [unasked] at memo
  | clash _ _ refused =>
    obtain ⟨_, kept, _⟩ := Ledger.recordFresh
      (show s.versions.get? (Library.foundAt tools s.calls name).toRecord.key = none by
        rw [fresh]; rfl)
    rw [kept] at refused
    cases refused
  | settled => rfl

/-- A located file leads to the gem in whose directory it lies, unless the path above that
directory has another name and version; if it has, it leads to the first of those. -/
theorem installedResolves {package name gem version release directory file : Text} {tools : Tools}
    {s : Session} (other : ¬ Library.IsOwn package name)
    (unasked : s.libraries.lookup name = none) (fresh : s.versions = .empty)
    (token : ∀ c ∈ gem, isTokenChar c = true) (begins : gem.head?.any isWord = true)
    (form : IsVersion version release)
    (located : tools.locate s.calls name = .ok (gemPath directory gem version file)) :
    ((Library.resolve package tools name s).1 = .ok (some (.gem gem version)) ↔
      (∀ before owner number after, ¬ Stands directory before owner number after) ∨
      ∃ before after, Foremost directory before gem version after) ∧
    ∀ before owner number after, Foremost directory before owner number after →
      (Library.resolve package tools name s).1 = .ok (some (.gem owner number)) := by
  have found := resolvedFresh tools other unasked fresh
  have read := parseInstalled token begins form directory file
  have reads := parseReads directory
  cases above : parse? directory with
  | none =>
    rw [above] at read reads
    have here : Library.foundAt tools s.calls name = .gem gem version :=
      Library.foundGem.mpr (by rw [located]; exact read)
    rw [found, here]
    exact ⟨iff_of_true rfl (.inl reads),
      fun before owner number after foremost => absurd foremost.toStands (reads _ _ _ _)⟩
  | some first =>
    obtain ⟨owner, number⟩ := first
    rw [above] at read reads
    obtain ⟨before, after, foremost⟩ := reads
    have there : Library.foundAt tools s.calls name = .gem owner number :=
      Library.foundGem.mpr (by rw [located]; exact read)
    rw [found, there]
    constructor
    · constructor
      · intro same
        cases same
        exact .inr ⟨before, after, foremost⟩
      · rintro (nothing | ⟨before', after', foremost'⟩)
        · exact absurd foremost.toStands (nothing _ _ _ _)
        · obtain ⟨rfl, rfl⟩ := foremost.unique foremost'
          rfl
    · intro before' owner' number' after' foremost'
      obtain ⟨rfl, rfl⟩ := foremost.unique foremost'
      rfl

end GemSurvey.Located

namespace GemSurvey.Sample

def placing (path : Text) : Tools :=
  let run (_ : Text) (_ : List Text) : Except IoFault Output := .ok ⟨path, [], true⟩
  .steady (locateBy run "gem") run

end GemSurvey.Sample

namespace GemSurvey.Located
open Line (isTokenChar)
open Text (isWord)

theorem sampleInstalled :
    (Library.resolve "own" (Sample.placing
      (gemPath "/var/lib/gems/3.2.0" "net-ssh2" "7.2" "net/ssh.rb\n")) "net/ssh" {}).1 =
        .ok (some (.gem "net-ssh2" "7.2")) := by
  have other : ¬ Library.IsOwn "own" "net/ssh" := Library.isSelfIff.not.mp (by decide +kernel)
  have nothing : ∀ before owner number after,
      ¬ Stands "/var/lib/gems/3.2.0" before owner number after := by
    have reads := parseReads "/var/lib/gems/3.2.0"
    rwa [show parse? "/var/lib/gems/3.2.0" = none by decide +kernel] at reads
  have form : IsVersion ("7.2" : Text) "7.2" :=
    @IsVersion.two "7" "2" (by decide +kernel) (by decide +kernel)
  have token : ∀ c ∈ ("net-ssh2" : Text), isTokenChar c = true :=
    List.all_eq_true.mp (by decide +kernel)
  exact (installedResolves other rfl rfl token (by decide +kernel) form rfl).1.mpr (.inl nothing)

theorem rubyDirectory :
    ¬ ∀ (package name gem version release directory file : Text) (tools : Tools),
      directory.head? = some '/' → ¬ Library.IsOwn package name →
      (∀ c ∈ gem, isTokenChar c = true) → gem.head?.any isWord = true →
      gem.getLast?.any isWord = true → IsVersion version release →
      tools.locate [] name = .ok (gemPath directory gem version file) →
      (Library.resolve package tools name {}).1 = .ok (some (.gem gem version)) := by
  intro always
  have other : ¬ Library.IsOwn "own" "json" := Library.isSelfIff.not.mp (by decide +kernel)
  have form : IsVersion ("2.6.3" : Text) "2.6" :=
    @IsVersion.three "2" "6" "3" (by decide +kernel) (by decide +kernel) (by decide +kernel)
  have token : ∀ c ∈ ("json" : Text), isTokenChar c = true := List.all_eq_true.mp (by decide +kernel)
  have owner := always "own" "json" "json" "2.6.3" "2.6" "/home/ada/.rvm/gems/ruby-3.2.0" "json.rb\n"
    (Sample.placing (gemPath "/home/ada/.rvm/gems/ruby-3.2.0" "json" "2.6.3" "json.rb\n"))
    rfl other token (by decide +kernel) (by decide +kernel) form rfl
  have ruby : (Library.resolve "own" (Sample.placing
      (gemPath "/home/ada/.rvm/gems/ruby-3.2.0" "json" "2.6.3" "json.rb\n")) "json" {}).1 =
        .ok (some (.gem "ruby" "3.2.0")) := by decide +kernel
  rw [ruby] at owner
  exact absurd owner (by decide)

end GemSurvey.Located
