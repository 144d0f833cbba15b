import GemSurvey.Bucket

/-! The dependency lines of a gem's description. Gems come first, then commands; of each kind those that
the gem needs, then those that only its development needs. Libraries are not declared. A version is
compatible with the release of its first two parts. -/
namespace GemSurvey

inductive Declaration where
  | dependency (development : Bool) (name compatible minimum : Text)
  | requirement (name : Text) (version : Option Text) (development : Bool)
  deriving DecidableEq, Repr

namespace Declaration

def shown : Declaration → Text
  | dependency development name compatible minimum =>
      (if development then "s.add_development_dependency '" else "s.add_runtime_dependency '") ++
        name ++ "', '~> " ++ compatible ++ "', '>= " ++ minimum ++ "'"
  | requirement name version development =>
      "s.requirements << '" ++ name ++ (if development then " in development" else "") ++ ": " ++
        version.getD [] ++ "'"

def compatible (version : Text) : Text := Text.join ['.'] ((Text.cut '.' version).take 2)

def ofGem (versions : Ledger) (development : Bool) (name : Text) : Declaration :=
  let minimum := (versions.version? ⟨.gem, name⟩).getD []
  .dependency development name (compatible minimum) minimum

def ofCommand (versions : Ledger) (development : Bool) (name : Text) : Declaration :=
  .requirement name (versions.version? ⟨.command, name⟩) development

def ofBuckets (buckets : Buckets) (versions : Ledger) : List Declaration :=
  buckets.gems.runtime.names.map (ofGem versions false) ++
    buckets.gems.developmentOnly.map (ofGem versions true) ++
    buckets.commands.runtime.names.map (ofCommand versions false) ++
    buckets.commands.developmentOnly.map (ofCommand versions true)

end Declaration
end GemSurvey
