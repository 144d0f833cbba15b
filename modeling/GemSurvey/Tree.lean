import GemSurvey.Fault
import GemSurvey.Path
import GemSurvey.Text.Utf8

/-! A tree of files and directories, and the directory that relative paths start from. A place is the
list of names that leads to it from the root; a separator at the end of a path asks for a directory. A
sealed directory can be entered, so that what is in it is found by its name, but it neither opens nor
tells its names. A locked file does not open, and a broken one opens but cannot be read on after some
content; both fail with the given cause. Names that are no text are told by their directories and lead
nowhere. A file keeps its permission when it is written anew. -/
namespace GemSurvey

abbrev Place := List Text

inductive Node where
  | directory
  | sealed (cause : IoFault)
  | file (content : Bytes) (executable : Bool)
  | locked (executable : Bool) (cause : IoFault)
  | broken (content : Bytes) (executable : Bool) (cause : IoFault)
  deriving DecidableEq, Repr

def Node.isDirectory : Node → Bool
  | directory | sealed _ => true
  | _ => false

abbrev View := Path → Except IoFault Node

structure RawName where
  bytes : Bytes
  noText : Text.decode? bytes = none
  deriving DecidableEq, Repr

structure Tree where
  nodes : List (Place × Node)
  current : Place
  raw : List (Place × RawName) := []
  deriving DecidableEq, Repr

namespace Tree

def node? (tree : Tree) (place : Place) : Option Node :=
  if place = [] then some .directory
  else (tree.nodes.find? fun entry => entry.1 = place).map (·.2)

def holdsDirectory (tree : Tree) (place : Place) : Bool := (tree.node? place).any Node.isDirectory

def holdsFile (tree : Tree) (place : Place) : Bool := (tree.node? place).any (!·.isDirectory)

def isSealed (tree : Tree) (place : Place) : Bool :=
  match tree.node? place with
  | some (.sealed _) => true
  | _ => false

def nameLimit : Nat := 255

def pathLimit : Nat := 4095

def enter (tree : Tree) (place : Place) (piece : Text) : Except IoFault Place :=
  match tree.node? place with
  | some node =>
      if node.isDirectory then
        if piece = [] ∨ piece = ['.'] then .ok place
        else if piece = ['.', '.'] then .ok place.dropLast
        else if nameLimit < (Text.encode piece).length then .error .nameTooLong
        else match tree.node? (place ++ [piece]) with
          | some _ => .ok (place ++ [piece])
          | none => .error .notFound
      else .error .notDirectory
  | none => .error .notFound

def walk (tree : Tree) (place : Place) : List Text → Except IoFault Place
  | [] => .ok place
  | piece :: rest => do walk tree (← tree.enter place piece) rest

def route (tree : Tree) (p : Path) : Except IoFault (Place × List Text) :=
  if p.text.contains '\x00' then .error .zeroInName
  else if p.text = [] then .error .notFound
  else if pathLimit < (Text.encode p.text).length then .error .nameTooLong
  else if p.isAbsolute then .ok ([], p.pieces.drop 1)
  else .ok (tree.current, p.pieces)

def find (tree : Tree) (p : Path) : Except IoFault (Place × Node) := do
  let (start, pieces) ← tree.route p
  let place ← tree.walk start pieces
  match tree.node? place with
  | some node => .ok (place, node)
  | none => .error .notFound

def view (tree : Tree) : View := fun p => (tree.find p).map (·.2)

def existsAt (tree : Tree) (p : Path) : Bool := (tree.view p).isOk

def isFile (tree : Tree) (p : Path) : Bool := (tree.view p).toOption.any (!·.isDirectory)

def isDirectory (tree : Tree) (p : Path) : Bool := (tree.view p).toOption.any Node.isDirectory

def readBytes (tree : Tree) (p : Path) : Except IoFault Bytes :=
  match tree.view p with
  | .ok (.file content _) => .ok content
  | .ok .directory => .error .isDirectory
  | .ok (.sealed cause) | .ok (.locked _ cause) | .ok (.broken _ _ cause) | .error cause =>
      .error cause

def readText (tree : Tree) (p : Path) : Except IoFault Text := do
  match Text.decode? (← tree.readBytes p) with
  | some t => .ok t
  | none => .error .notText

def children (tree : Tree) (place : Place) : List Text :=
  tree.nodes.filterMap fun entry =>
    if entry.1 ≠ [] ∧ entry.1.dropLast = place then entry.1.getLast? else none

def listing (tree : Tree) (place : Place) : List Bytes :=
  (tree.children place).map Text.encode ++
    (tree.raw.filter (·.1 = place)).map (·.2.bytes)

def put (tree : Tree) (place : Place) (content : Bytes) : Tree :=
  match tree.node? place with
  | some (.file _ executable) | some (.broken _ executable _) =>
      { tree with nodes := tree.nodes.map fun entry =>
          if entry.1 = place then (place, .file content executable) else entry }
  | _ => { tree with nodes := tree.nodes ++ [(place, .file content false)] }

def write (tree : Tree) (p : Path) (content : Bytes) : Except IoFault Tree := do
  let (start, pieces) ← tree.route p
  let parent ← tree.walk start pieces.dropLast
  match pieces.getLast? with
  | none => .error .isDirectory
  | some last =>
      match tree.enter parent last with
      | .ok place => match tree.node? place with
          | some .directory | some (.sealed _) => .error .isDirectory
          | some (.locked _ cause) => .error cause
          | _ => .ok (tree.put place content)
      | .error .notFound =>
          if tree.holdsDirectory parent then .ok (tree.put (parent ++ [last]) content)
          else .error .notFound
      | .error fault => .error fault

end Tree
end GemSurvey
