import GemSurvey.Glob.Pattern
import GemSurvey.Tree

/-! The paths of a tree that a pattern stands for. A segment without wildcards is looked up as it is;
any other is compared with the names that the directory tells, as far as they are text. After any number
of directories a name is compared even if it has no wildcards. A directory that does not tell its names
stands in the expansion as a failure, and failures are passed over where files are asked for. The root's
own name is part of the pattern; from the current directory a name is its own path. -/
namespace GemSurvey.Glob

abbrev Found := Except IoFault Path

def step (base : Path) (name : Text) : Path :=
  if base.text = ['.'] then ⟨name⟩ else base.join ⟨name⟩

def namesIn (tree : Tree) (base : Path) : Except IoFault (List Text) :=
  match tree.find base with
  | .ok (place, .directory) => .ok ((tree.listing place).filterMap Text.decode?)
  | .ok (_, .sealed cause) => .error cause
  | _ => .ok []

def literalStep (tree : Tree) (base : Path) (name : Text) : List Found :=
  let next := step base name
  let found := if name = ['.'] ∨ name = ['.', '.'] then tree.isDirectory base else tree.existsAt next
  if found then [.ok next] else []

def dots (tree : Tree) (base : Path) (tokens : List Token) : List Text :=
  if tokens.head? = some (.char '.') ∧ tree.isDirectory base then
    [['.'], ['.', '.']].filter (matchesName tokens)
  else []

def wildStep (tree : Tree) (base : Path) (tokens : List Token) : List Found :=
  match namesIn tree base with
  | .error cause => [.error cause]
  | .ok names =>
      ((names.filter (matchesName tokens)).map (step base) ++
        (dots tree base tokens).map fun name => base.join ⟨name⟩).map .ok

def directoriesFrom (tree : Tree) : Nat → Path → List Found
  | 0, _ => []
  | depth + 1, base =>
      if tree.isDirectory base then
        .ok base :: match namesIn tree base with
          | .error cause => [.error cause]
          | .ok names => names.flatMap fun name => directoriesFrom tree depth (step base name)
      else []

def depthBound (tree : Tree) : Nat := tree.nodes.foldl (fun n entry => max n entry.1.length) 0 + 1

def kept (found : List Found) : List Path := found.filterMap Except.toOption

def onward (f : Path → List Found) : Found → List Found
  | .ok path => f path
  | .error cause => [.error cause]

def namedIn (tree : Tree) (tokens : List Token) (base : Path) : List Found :=
  (((namesIn tree base).toOption.getD []).filter (matchesName tokens)).map fun name =>
    .ok (step base name)

def expand (tree : Tree) : List Segment → Path → List Found
  | [], base => [.ok base]
  | .tokens ts :: rest, base =>
      let found := match literal? ts with
        | some name => literalStep tree base name
        | none => wildStep tree base ts
      found.flatMap (onward (expand tree rest))
  | .anyDepth :: .tokens ts :: rest, base =>
      let found := (directoriesFrom tree (depthBound tree) base).flatMap (onward (namedIn tree ts))
      found.flatMap (onward (expand tree rest))
  | .anyDepth :: .anyDepth :: rest, base => expand tree (.anyDepth :: rest) base
  | [.anyDepth], base => (directoriesFrom tree (depthBound tree) base).drop 1

def paths (tree : Tree) (pattern : Path) : Except Fault (List Found) :=
  let (start, inner) := if pattern.isAbsolute then (("/" : Path), pattern.text.drop 1)
    else (".", pattern.text)
  (readSegments inner).map fun segments => expand tree segments start

def filesUnder (tree : Tree) (root pattern : Path) : Except Fault (List Path) :=
  (paths tree (root.join pattern)).map fun found =>
    Path.sorted (((kept found).filter tree.isFile).filterMap root.below?)

end GemSurvey.Glob
