import GemSurvey.Datum.Basic
import GemSurvey.Fault
import GemSurvey.Text.CharClass

/-! Settings of a project, each with a default: what the gem is called, what a scan reads, and the
programs that it asks. A blank version leaves the fallback requirement without one. -/
namespace GemSurvey

structure PackageSettings where
  name : Option Text := none
  license : Text := "MIT"
  homepage : Option Text := none
  readme : Path := "README.md"
  deriving DecidableEq, Repr

structure ScanSettings where
  distributedRoots : List Text := ["lib", "bin"]
  sourceSuffixes : List Text := ["rb", "thor"]
  shebangRuntime : Text := "ruby"
  ignoreFile : Path := ".gemignore"
  systemRequirement : Text := "linux/bash"
  deriving DecidableEq, Repr

structure ToolSettings where
  gem : Text := "gem"
  which : Text := "which"
  deriving DecidableEq, Repr

structure Settings where
  package : PackageSettings := {}
  scan : ScanSettings := {}
  tools : ToolSettings := {}
  deriving DecidableEq, Repr

namespace ScanSettings

def requirement? (scan : ScanSettings) : Option Text :=
  let value := Text.trim scan.systemRequirement
  if value.isEmpty then none else some value

def isRuntimeChar (c : Char) : Bool := Text.isAsciiWord c

def invalid (field reason : Text) : Except SettingsFault Unit := .error (.invalidValue field reason)

def validate (scan : ScanSettings) : Except SettingsFault Unit :=
  if scan.distributedRoots.all fun root => (Text.trim root).isEmpty then
    invalid "scan.distributed_roots" "at least one root directory is required"
  else if scan.sourceSuffixes.all fun suffix => (Text.trim suffix).isEmpty then
    invalid "scan.source_suffixes" "at least one file extension is required"
  else match scan.sourceSuffixes.find? fun suffix => suffix.head? = some '.' with
    | some suffix => invalid "scan.source_suffixes"
        ("'" ++ suffix ++ "' must be given without the leading dot")
    | none =>
        if scan.shebangRuntime.isEmpty || !scan.shebangRuntime.all isRuntimeChar then
          invalid "scan.shebang_runtime"
            ("'" ++ scan.shebangRuntime ++ "' must be a plain interpreter name such as 'ruby'")
        else .ok ()

end ScanSettings

open Datum (Fields asText asTexts asOption)

def asPath (d : Datum) : Except Datum.Fault Path := (asText d).map Path.mk

def PackageSettings.ofDatum (exact : Bool) (d : Datum) : Except Datum.Fault PackageSettings := do
  let fs ← d.fields exact ["name", "license", "homepage", "readme"]
  let plain : PackageSettings := {}
  .ok { name := ← fs.default "name" plain.name (asOption asText)
        license := ← fs.default "license" plain.license asText
        homepage := ← fs.default "homepage" plain.homepage (asOption asText)
        readme := ← fs.default "readme" plain.readme asPath }

def ScanSettings.ofDatum (exact : Bool) (d : Datum) : Except Datum.Fault ScanSettings := do
  let fs ← d.fields exact
    ["distributed_roots", "source_suffixes", "shebang_runtime", "ignore_file", "system_requirement"]
  let plain : ScanSettings := {}
  .ok { distributedRoots := ← fs.default "distributed_roots" plain.distributedRoots asTexts
        sourceSuffixes := ← fs.default "source_suffixes" plain.sourceSuffixes asTexts
        shebangRuntime := ← fs.default "shebang_runtime" plain.shebangRuntime asText
        ignoreFile := ← fs.default "ignore_file" plain.ignoreFile asPath
        systemRequirement := ← fs.default "system_requirement" plain.systemRequirement asText }

def ToolSettings.ofDatum (exact : Bool) (d : Datum) : Except Datum.Fault ToolSettings := do
  let fs ← d.fields exact ["gem", "which"]
  let plain : ToolSettings := {}
  .ok { gem := ← fs.default "gem" plain.gem asText
        which := ← fs.default "which" plain.which asText }

def Settings.ofDatum (exact : Bool) (d : Datum) : Except Datum.Fault Settings := do
  let fs ← d.fields exact ["package", "scan", "tools"]
  .ok { package := ← fs.default "package" {} (PackageSettings.ofDatum exact)
        scan := ← fs.default "scan" {} (ScanSettings.ofDatum exact)
        tools := ← fs.default "tools" {} (ToolSettings.ofDatum exact) }

end GemSurvey
