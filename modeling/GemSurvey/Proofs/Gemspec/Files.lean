import GemSurvey.Proofs.Gemspec.Literals
import GemSurvey.Proofs.Text.WordList

/-! The files of a description. The list of them is read back as the tracked paths exactly if no
path holds white space or a backslash and all their parentheses balance; git promises neither. -/
namespace GemSurvey

theorem Git.trackedNamed {git : Git} {files : List Path} (ok : git.tracked = .ok files) :
    ∀ file ∈ files, file.text ≠ [] := by
  unfold tracked Except.map at ok
  split at ok
  · contradiction
  cases Except.ok.inj ok
  intro file member
  obtain ⟨line, kept, rfl⟩ := List.mem_map.mp member
  have named := (List.mem_filter.mp kept).2
  rw [Bool.and_eq_true, Bool.not_eq_true', List.isEmpty_eq_false_iff] at named
  exact named.1

namespace Gemspec
open WordList

variable {p : Project} {files : List Path} {declarations : List Declaration}

def beforeFiles (p : Project) : Text :=
  heading p ++ texts p ++ "  s.require_paths = ['lib']\n  s.files = %w("

def listed (files : List Path) : Text := "\n" ++ files.flatMap fileLine ++ "  "

def afterFiles (p : Project) (files : List Path) (declarations : List Declaration) : Text :=
  "\n" ++ executableLine p files ++ declarations.flatMap declarationLine ++ "end\n"

theorem bodyListed (p : Project) (files : List Path) (declarations : List Declaration) :
    body p files declarations =
      beforeFiles p ++ listed files ++ ')' :: afterFiles p files declarations := by
  have opening : ("  s.require_paths = ['lib']\n  s.files = %w(\n" : Text) =
      "  s.require_paths = ['lib']\n  s.files = %w(" ++ ("\n" : Text) := by
    decide +kernel
  have closing : ("  )\n" : Text) = "  " ++ ')' :: ("\n" : Text) := by decide +kernel
  have block : fileBlock files =
      "  s.require_paths = ['lib']\n  s.files = %w(\n" ++ files.flatMap fileLine ++ "  )\n" := rfl
  simp only [body, block, beforeFiles, listed, afterFiles, opening, closing, List.append_assoc,
    List.cons_append]

theorem lineCons (file : Path) (files : List Path) :
    (file :: files).flatMap fileLine ++ "  " =
      file.text ++ '\n' :: (files.flatMap fileLine ++ "  ") := by
  change file.text ++ ['\n'] ++ files.flatMap fileLine ++ "  " = _
  rw [List.append_assoc, List.append_assoc]
  rfl

theorem listedPieces (named : ∀ file ∈ files, file.text ≠ [])
    (unspaced : ∀ file ∈ files, ∀ c ∈ file.text, isSpace c = false) :
    pieces (listed files) = files.map Path.text := by
  change pieces ([] ++ '\n' :: (files.flatMap fileLine ++ "  ")) = _
  rw [piecesSpace (by simp) rfl]
  induction files with
  | nil => decide
  | cons file files ih =>
    have text := named file List.mem_cons_self
    have rest := ih (fun other member => named other (List.mem_cons_of_mem _ member))
      fun other member => unspaced other (List.mem_cons_of_mem _ member)
    have word : ended file.text = [file.text] := by simp [ended, text]
    rw [lineCons, piecesSpace (unspaced file List.mem_cons_self) rfl, word]
    exact congrArg (file.text :: ·) rest

theorem listedBalance (files : List Path) :
    balance 0 (listed files) = balance 0 (files.flatMap Path.text) := by
  change balance 0 ('\n' :: (files.flatMap fileLine ++ "  ")) = _
  rw [balanceSpace rfl]
  generalize 0 = depth
  induction files generalizing depth with
  | nil => rfl
  | cons file files ih =>
    rw [lineCons, List.flatMap_cons, balanceAppend, balanceAppend]
    refine congrArg _ (funext fun depth => ?_)
    rw [balanceSpace rfl, ih]

theorem listedSolid (files : List Path) :
    solid (listed files) = solid (files.map Path.text).flatten := by
  change solid (files.flatMap fileLine ++ "  ") = _
  induction files with
  | nil => rfl
  | cons file files ih =>
    rw [lineCons, List.map_cons, List.flatten_cons, solidAppend, solidAppend, ← ih]
    rfl

theorem listedEscapes (files : List Path) :
    '\\' ∉ listed files ↔ ∀ file ∈ files, '\\' ∉ file.text := by
  have opening : '\\' ∉ ("\n" : Text) := by decide
  have closing : '\\' ∉ ("  " : Text) := by decide
  simp only [listed, List.mem_append, List.mem_flatMap, fileLine, opening, closing, or_false,
    false_or, not_exists, not_and]

theorem listedIff (named : ∀ file ∈ files, file.text ≠ []) (after : Text) :
    read? (listed files ++ ')' :: after) = some (files.map Path.text, after) ↔
      (∀ file ∈ files, ∀ c ∈ file.text, isSpace c = false ∧ c ≠ '\\') ∧
        balance 0 (files.flatMap Path.text) = some 0 := by
  rw [← listedBalance]
  constructor
  · intro found
    obtain ⟨inside, same, reads⟩ := readIff.mp found
    cases List.append_cancel_right same
    have noEscape := reads.kept.2 (by rw [listedSolid]; exact (Nat.zero_add _).symm)
    obtain ⟨balanced, words⟩ := (readsIff noEscape).mp reads
    refine ⟨fun file member c char => ⟨?_, ?_⟩, balanced⟩
    · have piece : file.text ∈ pieces (listed files) := words ▸ List.mem_map_of_mem member
      exact piecesUnspaced piece c char
    · rintro rfl
      exact (listedEscapes files).mp noEscape file member char
  · rintro ⟨chars, balanced⟩
    have noEscape := (listedEscapes files).mpr fun file member slash =>
      (chars file member _ slash).2 rfl
    have words := listedPieces named fun file member c char => (chars file member c char).1
    exact readIff.mpr ⟨_, rfl, (readsIff noEscape).mpr ⟨balanced, words.symm⟩⟩

theorem filesReadBack {git : Git} (ok : git.tracked = .ok files) (complete : lacking p = [])
    (declarations : List Declaration) :
    render p files declarations =
        .ok (beforeFiles p ++ listed files ++ ')' :: afterFiles p files declarations) ∧
      (read? (listed files ++ ')' :: afterFiles p files declarations) =
          some (files.map Path.text, afterFiles p files declarations) ↔
        (∀ file ∈ files, ∀ c ∈ file.text, isSpace c = false ∧ c ≠ '\\') ∧
          balance 0 (files.flatMap Path.text) = some 0) := by
  rw [renderComplete complete, bodyListed]
  exact ⟨rfl, listedIff (Git.trackedNamed ok) _⟩

end Gemspec

/- Git in a work tree of these files. -/
namespace Sample

def git (listing : Text) : Git where
  run _ _ := .ok ⟨listing, [], true⟩
  workTree := "/w"

end Sample

namespace Gemspec
open WordList

theorem sampleFiles :
    (Sample.git "README.md\n lib/own(1).rb\n").tracked =
      .ok ["README.md", "lib/own(1).rb"] ∧
    lacking (Sample.project "Ada Lovelace") = [] ∧
    read? (listed ["README.md", "lib/own(1).rb"] ++
        ')' :: afterFiles (Sample.project "Ada Lovelace") ["README.md", "lib/own(1).rb"] []) =
      some (["README.md".toList, "lib/own(1).rb".toList],
        afterFiles (Sample.project "Ada Lovelace") ["README.md", "lib/own(1).rb"] []) := by
  have tracked : (Sample.git "README.md\n lib/own(1).rb\n").tracked =
      .ok ["README.md", "lib/own(1).rb"] := by
    decide +kernel
  have chars : ∀ file ∈ (["README.md", "lib/own(1).rb"] : List Path), ∀ c ∈ file.text,
      isSpace c = false ∧ c ≠ '\\' := by
    have checked : (["README.md", "lib/own(1).rb"] : List Path).all (fun file =>
        file.text.all fun c => !isSpace c && c != '\\') = true := by
      decide +kernel
    simpa only [List.all_eq_true, Bool.and_eq_true, Bool.not_eq_true', bne_iff_ne] using checked
  exact ⟨tracked, rfl, (filesReadBack tracked rfl []).2.mpr ⟨chars, by decide +kernel⟩⟩

theorem filesSplit :
    ¬ ∀ (git : Git) (files : List Path) (p : Project) (declarations : List Declaration),
      git.tracked = .ok files → lacking p = [] →
      read? (listed files ++ ')' :: afterFiles p files declarations) =
        some (files.map Path.text, afterFiles p files declarations) := by
  intro always
  have tracked : (Sample.git "lib/my gem.rb\n").tracked = .ok ["lib/my gem.rb"] := by
    decide +kernel
  have found := always _ _ (Sample.project "Ada Lovelace") [] tracked rfl
  have chars := ((listedIff (Git.trackedNamed tracked) _).mp found).1
  exact absurd (chars _ List.mem_cons_self ' ' (by decide)).1 (by decide)

end Gemspec
end GemSurvey
