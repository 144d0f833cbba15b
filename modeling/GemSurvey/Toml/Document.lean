import GemSurvey.Toml.Value

/-! Documents: a line opens a table by its header or gives a key its value in the table opened last. A
byte order mark at the start does not count. Fuel bounds the number of statements. -/
namespace GemSurvey.Toml

inductive Statement where
  | header (path : List Text) (key : Text)
  | nextHeader (path : List Text) (key : Text)
  | assign (path : List Text) (key : Text) (node : Node)

def endLine (inComment : Bool) : Text → Except Fault Text
  | [] => .ok []
  | '\r' :: '\n' :: rest => .ok rest
  | '\n' :: rest => .ok rest
  | c :: rest =>
      if inComment then if isPlain c then endLine true rest else .error .badCharacter
      else if c == ' ' || c == '\t' then endLine false rest
      else if c == '#' then endLine true rest
      else .error .trailing

def readStatement (t : Text) : Except Fault (Statement × Text) :=
  match t with
  | '[' :: '[' :: rest => do
      let ((path, key), rest) ← readKeys (rest.length + 1) rest
      match rest with
      | ']' :: ']' :: rest => .ok (.nextHeader path key, rest)
      | _ => .error .unclosedHeader
  | '[' :: rest => do
      let ((path, key), rest) ← readKeys (rest.length + 1) rest
      match rest with
      | ']' :: rest => .ok (.header path key, rest)
      | _ => .error .unclosedHeader
  | t => do
      let ((path, key), rest) ← readKeys (t.length + 1) t
      match rest with
      | '=' :: rest => do
          let rest := skipBlanks rest
          let (node, rest) ← readValue (2 * rest.length + 2) 0 rest
          .ok (.assign path key node, rest)
      | _ => .error .noEquals

def readStatements : Nat → Text → Except Fault (List Statement)
  | 0, _ => .ok []
  | fuel + 1, t => do
      match ← skipSpace false t with
      | [] => .ok []
      | t =>
          let (statement, rest) ← readStatement t
          let rest ← endLine false rest
          .ok (statement :: (← readStatements fuel rest))

structure Progress where
  opened : List Text := []
  entries : Entries := []

def Progress.add (p : Progress) : Statement → Except Fault Progress
  | .header path key => do
      .ok { opened := path ++ [key], entries := ← p.entries.openTable path key }
  | .nextHeader path key => do
      .ok { opened := path ++ [key], entries := ← p.entries.openElement path key }
  | .assign path key node => do
      let entries ← p.entries.alter false (Entries.assign path key node) p.opened .header
      .ok { p with entries := entries }

def dropMark : Text → Text
  | '\ufeff' :: rest => rest
  | t => t

def read (t : Text) : Except Fault Datum := do
  let t := dropMark t
  let statements ← readStatements (t.length + 1) t
  let progress ← statements.foldlM Progress.add {}
  .ok (.record (fieldsOf progress.entries))

end GemSurvey.Toml
