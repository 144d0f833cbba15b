import GemSurvey.Reference.Line
import GemSurvey.Resolution.Session

/-! Required names. A name is located once a run, where a call that fails counts as an empty answer;
what is located tells the gem, and a name that leads to no gem is a library by itself. A gem is read off
a place as a run of word characters and hyphens that ends in a hyphen and digits, then a dot, digits,
and perhaps a dot and digits again; its name begins with a word character. The gem's own files, named by
its name alone or before a slash, are no dependency. -/
namespace GemSurvey.Located

def version? (major : Text) : Text → Option Text
  | '.' :: t =>
      let minor := t.takeWhile Text.isDigit
      let rest := t.dropWhile Text.isDigit
      let patch := (rest.drop 1).takeWhile Text.isDigit
      let after := (rest.drop 1).dropWhile Text.isDigit
      if major.isEmpty || !major.all Text.isDigit || minor.isEmpty then none
      else if rest.head? = some '.' ∧ patch ≠ [] ∧ !(after.head?).any Text.isWord then
        some (major ++ '.' :: minor ++ '.' :: patch)
      else if (rest.head?).any Text.isWord then none
      else some (major ++ '.' :: minor)
  | _ => none

def atRun? (run after : Text) : Option (Text × Text) :=
  let major := (run.reverse.takeWhile (· != '-')).reverse
  let name := (run.take (run.length - major.length - 1)).dropWhile (· == '-')
  if name.isEmpty then none
  else (version? major after).map fun version => (name, version)

def parseFrom (inRun : Bool) : Text → Option (Text × Text)
  | [] => none
  | c :: rest =>
      if !Line.isTokenChar c then parseFrom false rest
      else if inRun then parseFrom true rest
      else
        let t := c :: rest
        match atRun? (t.takeWhile Line.isTokenChar) (t.dropWhile Line.isTokenChar) with
        | some found => some found
        | none => parseFrom true rest

def parse? (t : Text) : Option (Text × Text) := parseFrom false t

end GemSurvey.Located

namespace GemSurvey.Library

def isSelf (package name : Text) : Bool :=
  match Text.after? package name with
  | some rest => rest.isEmpty || rest.head? == some '/'
  | none => false

def ofLocated (name located : Text) : Library :=
  match Located.parse? located with
  | some (owner, version) => .gem owner version
  | none => .builtin name

def toRecord : Library → Record
  | gem name version => ⟨⟨.gem, name⟩, some version, .packageManager⟩
  | builtin name => ⟨⟨.library, name⟩, none, .notFound⟩

def unlocated (name : Text) (cause : IoFault) : Diagnostic :=
  .general ("could not locate '" ++ name ++ "': " ++ cause.message)

def located (s : Session) (tools : Tools) (name : Text) : Text × Session :=
  let (answer, s) := { s with queries := s.queries + 1 }.locate tools name
  match answer with
  | .ok t => (t, s)
  | .error cause => ([], s.report (unlocated name cause))

def resolve (package : Text) (tools : Tools) (name : Text) (s : Session) :
    Except Conflict (Option Library) × Session :=
  if isSelf package name then (.ok none, s)
  else match s.libraries.lookup name with
    | some known => (.ok (some known), s)
    | none =>
        let (place, s) := located s tools name
        let found := ofLocated name place
        match s.record found.toRecord with
        | .error conflict => (.error conflict, s)
        | .ok s => (.ok (some found), { s with libraries := (name, found) :: s.libraries })

end GemSurvey.Library
