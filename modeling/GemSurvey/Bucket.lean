import GemSurvey.Resolution.Session

/-! Names in the order in which they first came, kept apart by kind and by the role of the
files that refer to them. -/
namespace GemSurvey

structure Bucket where
  names : List Text := []
  deriving DecidableEq, Repr

namespace Bucket

def contains (b : Bucket) (name : Text) : Bool := b.names.contains name

def insert (b : Bucket) (name : Text) : Bucket :=
  if b.contains name then b else ⟨b.names ++ [name]⟩

end Bucket

structure Needs where
  runtime : Bucket := {}
  development : Bucket := {}
  deriving DecidableEq, Repr

namespace Needs

def forRole (n : Needs) : Role → Bucket
  | .distributed => n.runtime
  | .auxiliary => n.development

def insert (n : Needs) (role : Role) (name : Text) : Needs :=
  match role with
  | .distributed => { n with runtime := n.runtime.insert name }
  | .auxiliary => { n with development := n.development.insert name }

def developmentOnly (n : Needs) : List Text :=
  n.development.names.filter (!n.runtime.contains ·)

end Needs

structure Buckets where
  gems : Needs := {}
  libraries : Needs := {}
  commands : Needs := {}
  deriving DecidableEq, Repr

namespace Buckets

def addLibrary (b : Buckets) (role : Role) : Library → Buckets
  | .gem name _ => { b with gems := b.gems.insert role name }
  | .builtin name => { b with libraries := b.libraries.insert role name }

def addRequirement (b : Buckets) (role : Role) (r : Requirement) : Buckets :=
  { b with commands := b.commands.insert role r.label }

end Buckets
end GemSurvey
