import GemSurvey.Text.Basic

/-! Paths. A path is shown as it was written, but means its components: separators may repeat or trail,
and a `.` counts only at the start of a relative path. Joined to another, a path is seen from there, but
an absolute one is itself from everywhere. The extension of a name follows its last dot, and a first dot
divides nothing. Paths are in the order of their components, a path before those that continue it. -/
namespace GemSurvey

structure Path where
  text : Text
  deriving DecidableEq, Repr

instance : Coe String Path := ⟨fun s => ⟨s.toList⟩⟩

namespace Path

inductive Component where
  | root | here | up | name (text : Text)
  deriving DecidableEq, Repr

def component? (piece : Text) : Option Component :=
  if piece = [] ∨ piece = ['.'] then none
  else if piece = ['.', '.'] then some .up
  else some (.name piece)

def pieces (p : Path) : List Text := Text.cut '/' p.text

def isAbsolute (p : Path) : Bool := p.text.head? == some '/'

def components (p : Path) : List Component :=
  let inner := p.pieces.filterMap component?
  if p.isAbsolute then .root :: inner
  else if p.pieces.head? = some ['.'] then .here :: inner
  else inner

def same (p q : Path) : Bool := p.components == q.components

def fileName? (p : Path) : Option Text :=
  match p.components.getLast? with
  | some (.name t) => some t
  | _ => none

def divide (name : Text) : Text × Option Text :=
  let after := name.reverse.takeWhile (· != '.')
  match name.reverse.dropWhile (· != '.') with
  | _ :: before@(_ :: _) => (before.reverse, some after.reverse)
  | _ => (name, none)

def extension? (p : Path) : Option Text := p.fileName?.bind fun name => (divide name).2

def join (p q : Path) : Path :=
  if q.isAbsolute ∨ p.text = [] then q
  else if p.text.getLast? = some '/' then ⟨p.text ++ q.text⟩
  else ⟨p.text ++ '/' :: q.text⟩

def componentText : Component → Text
  | .root => ['/']
  | .here => ['.']
  | .up => ['.', '.']
  | .name t => t

def ofComponents (cs : List Component) : Path :=
  match cs with
  | .root :: rest => ⟨'/' :: Text.join ['/'] (rest.map componentText)⟩
  | _ => ⟨Text.join ['/'] (cs.map componentText)⟩

def below? (base p : Path) : Option Path :=
  if base.components.isPrefixOf p.components then
    some (ofComponents (p.components.drop base.components.length))
  else none

def Component.rank : Component → Nat × Text
  | .root => (0, [])
  | .here => (1, [])
  | .up => (2, [])
  | .name t => (3, t)

def Component.precedes (a b : Component) : Bool :=
  a.rank.1 < b.rank.1 || (a.rank.1 == b.rank.1 && decide (a.rank.2 < b.rank.2))

def componentsLe : List Component → List Component → Bool
  | [], _ => true
  | _ :: _, [] => false
  | a :: as, b :: bs => a.precedes b || (a == b && componentsLe as bs)

def le (p q : Path) : Bool := componentsLe p.components q.components

def sorted (ps : List Path) : List Path := ps.mergeSort le

end Path
end GemSurvey
