import GemSurvey.Reference.Line
import GemSurvey.Text.Quoted
import GemSurvey.Tree

/-! The references that a file emits, line by line. A line that is no text ends the file with a problem,
and what came before it stands. A file that does not open gives one problem, and so does a directory,
whose first line cannot be read. -/
namespace GemSurvey

inductive Emitted where
  | reference (r : Reference)
  | problem (d : Diagnostic)
  deriving DecidableEq, Repr

namespace Emission

def byteLines (content : Bytes) : List Bytes := Text.linesBy (· == 10) (· == 13) content

def atLine (number : Nat) (message : Text) : Text :=
  "line " ++ Text.decimal number ++ ": " ++ message

def ended (content : Bytes) : Bytes := (content.reverse.dropWhile (· != 10)).reverse

def lineRead (line : Bytes) : Except IoFault Text :=
  match Text.decode? line with
  | some t => .ok t
  | none => .error .notText

inductive Unread where
  | lines (rest : List (Except IoFault Text))
  | failed (problem : Diagnostic)
  | nothing
  deriving Repr

def Unread.ofNode (path : Path) : Except IoFault Node → Unread
  | .ok (.file content _) => lines ((byteLines content).map lineRead)
  | .ok (.broken content _ cause) => lines ((byteLines (ended content)).map lineRead ++ [.error cause])
  | .ok .directory => lines [.error .isDirectory]
  | .ok (.sealed cause) | .ok (.locked _ cause) | .error cause => failed (.about path cause.message)

structure Reader where
  file : SourceFile
  unread : Unread
  number : Nat := 0
  deriving Repr

namespace Reader

def ofFile (view : View) (root : Path) (file : SourceFile) : Reader :=
  { file := file, unread := .ofNode file.path (view (root.join file.path)) }

def readOn (file : SourceFile) (number : Nat) : List (Except IoFault Text) → Option Emitted × Reader
  | [] => (none, ⟨file, .nothing, number⟩)
  | .error cause :: _ =>
      (some (.problem (.about file.path (atLine (number + 1) cause.message))),
        ⟨file, .nothing, number⟩)
  | .ok line :: rest => match Line.match? line with
      | some (kind, name) =>
          (some (.reference ⟨kind, name, file.path, file.role, number + 1⟩),
            ⟨file, .lines rest, number + 1⟩)
      | none => readOn file (number + 1) rest

def next (r : Reader) : Option Emitted × Reader :=
  match r.unread with
  | .lines rest => readOn r.file r.number rest
  | .failed problem => (some (.problem problem), { r with unread := .nothing })
  | .nothing => (none, r)

def size (r : Reader) : Nat :=
  match r.unread with
  | .lines rest => rest.length + 1
  | .failed _ => 1
  | .nothing => 0

theorem readOnSize (file : SourceFile) (number : Nat) (rest : List (Except IoFault Text)) :
    (readOn file number rest).2.size < rest.length + 1 := by
  induction rest generalizing number with
  | nil => exact Nat.zero_lt_one
  | cons line rest ih => cases line with
    | error cause => exact Nat.zero_lt_succ _
    | ok line =>
      rw [readOn]
      split
      · exact Nat.lt_succ_self _
      · exact Nat.lt_succ_of_lt (ih _)

theorem nextSize {r after : Reader} {item : Emitted} (found : r.next = (some item, after)) :
    after.size < r.size := by
  unfold next at found
  split at found
  · rename_i rest lines
    have smaller := readOnSize r.file r.number rest
    rw [found] at smaller
    simpa only [size, lines] using smaller
  · rename_i problem failed
    cases found
    simp [size, failed]
  · cases found

def items (r : Reader) : List Emitted :=
  match _found : r.next with
  | (some item, after) => item :: after.items
  | (none, _) => []
termination_by r.size
decreasing_by exact nextSize ‹_›

end Reader

def fromFile (view : View) (root : Path) (file : SourceFile) : List Emitted :=
  (Reader.ofFile view root file).items

end Emission
end GemSurvey
