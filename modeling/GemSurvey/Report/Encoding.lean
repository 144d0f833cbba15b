import GemSurvey.Datum.Basic
import GemSurvey.Survey

/-! Reports: the plain listing, six headed sections with gems and commands and their versions and
libraries on one line; and reports and their parts as structured values, with the parts read back. The
records of a report must agree with one another. -/
namespace GemSurvey.Listing

def versioned (versions : Ledger) (kind : KeyKind) (bucket : Bucket) : Text :=
  bucket.names.flatMap fun name =>
    name ++ ": " ++ (versions.version? ⟨kind, name⟩).getD [] ++ "\n"

def joined (bucket : Bucket) : Text :=
  if bucket.names.isEmpty then [] else Text.join ", " bucket.names ++ "\n"

def headed (header : Text) (body : Text) : Text := "# " ++ header ++ "\n" ++ body

def render (versions : Ledger) (b : Buckets) : Text :=
  headed "runtime gems" (versioned versions .gem b.gems.runtime) ++
    headed "development gems" (versioned versions .gem b.gems.development) ++
    headed "runtime libraries" (joined b.libraries.runtime) ++
    headed "development libraries" (joined b.libraries.development) ++
    headed "runtime requirements" (versioned versions .command b.commands.runtime) ++
    headed "development requirements" (versioned versions .command b.commands.development)

def ofReport (report : Report) : Except Fault Text :=
  match Ledger.ofRecords report.versions with
  | .ok versions => .ok (render versions report.buckets)
  | .error conflict => .error conflict.fault

end GemSurvey.Listing

namespace GemSurvey

open Datum (Fields asText asTexts asOption asWord)

def Datum.optional : Option Text → Datum
  | some t => .text t
  | none => .null

def Role.words : List (Text × Role) := [("distributed", .distributed), ("auxiliary", .auxiliary)]

def SourceKind.words : List (Text × SourceKind) := [("script", .script), ("shebang", .shebang)]

def ReferenceKind.words : List (Text × ReferenceKind) := [("import", .library), ("command", .command)]

def KeyKind.words : List (Text × KeyKind) :=
  [("gem", .gem), ("library", .library), ("command", .command)]

def Provenance.words : List (Text × Provenance) :=
  [("package-manager", .packageManager), ("command-probe", .commandProbe),
    ("not-found", .notFound), ("configured", .configured)]

def wordOf [BEq α] (words : List (Text × α)) (value : α) : Datum :=
  .text (((words.find? fun entry => entry.2 == value).map (·.1)).getD [])

namespace Key

def toDatum (key : Key) : Datum :=
  .record [("kind", wordOf KeyKind.words key.kind), ("name", .text key.name)]

def ofDatum (d : Datum) : Except Datum.Fault Key := do
  let fs ← d.fields true ["kind", "name"]
  .ok ⟨← fs.required "kind" (asWord KeyKind.words), ← fs.required "name" asText⟩

end Key

namespace Record

def toDatum (r : Record) : Datum :=
  .record [("key", r.key.toDatum), ("version", .optional r.version),
    ("source", wordOf Provenance.words r.provenance)]

def ofDatum (d : Datum) : Except Datum.Fault Record := do
  let fs ← d.fields true ["key", "version", "source"]
  .ok ⟨← fs.required "key" Key.ofDatum, ← fs.default "version" none (asOption asText),
    ← fs.required "source" (asWord Provenance.words)⟩

end Record

namespace SourceFile

def toDatum (file : SourceFile) : Datum :=
  .record [("path", .text file.path.text), ("role", wordOf Role.words file.role),
    ("kind", wordOf SourceKind.words file.kind)]

def ofDatum (d : Datum) : Except Datum.Fault SourceFile := do
  let fs ← d.fields true ["path", "role", "kind"]
  .ok ⟨⟨← fs.required "path" asText⟩, ← fs.required "role" (asWord Role.words),
    ← fs.required "kind" (asWord SourceKind.words)⟩

end SourceFile

namespace Diagnostic

def toDatum (d : Diagnostic) : Datum :=
  .record [("path", .optional (d.path.map Path.text)), ("message", .text d.message)]

def ofDatum (d : Datum) : Except Datum.Fault Diagnostic := do
  let fs ← d.fields true ["path", "message"]
  .ok ⟨(← fs.default "path" none (asOption asText)).map Path.mk, ← fs.required "message" asText⟩

end Diagnostic

namespace Needs

def toDatum (n : Needs) : Datum :=
  .record [("runtime", .list (n.runtime.names.map .text)),
    ("development", .list (n.development.names.map .text))]

def ofDatum (d : Datum) : Except Datum.Fault Needs := do
  let fs ← d.fields true ["runtime", "development"]
  .ok ⟨⟨← fs.required "runtime" asTexts⟩, ⟨← fs.required "development" asTexts⟩⟩

end Needs

namespace Buckets

def toDatum (b : Buckets) : Datum :=
  .record [("gems", b.gems.toDatum), ("libraries", b.libraries.toDatum),
    ("commands", b.commands.toDatum)]

def ofDatum (d : Datum) : Except Datum.Fault Buckets := do
  let fs ← d.fields true ["gems", "libraries", "commands"]
  .ok ⟨← fs.required "gems" Needs.ofDatum, ← fs.required "libraries" Needs.ofDatum,
    ← fs.required "commands" Needs.ofDatum⟩

end Buckets

def Declaration.toDatum : Declaration → Datum
  | .dependency development name compatible minimum =>
      .record [("kind", .text (if development then "development-dependency" else "runtime-dependency")),
        ("name", .text name), ("compatible", .text compatible), ("minimum", .text minimum)]
  | .requirement name version development =>
      .record [("kind", .text "requirement"), ("name", .text name), ("version", .optional version),
        ("development", .boolean development)]

def Report.toDatum (report : Report) : Datum :=
  .record [("files_scanned", .number report.filesScanned),
    ("versions", .list (report.versions.map Record.toDatum)),
    ("buckets", report.buckets.toDatum),
    ("declarations", .list (report.declarations.map Declaration.toDatum)),
    ("diagnostics", .list (report.diagnostics.map Diagnostic.toDatum))]

end GemSurvey
