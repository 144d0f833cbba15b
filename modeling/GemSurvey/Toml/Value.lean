import GemSurvey.Toml.Quote
import GemSurvey.Toml.Scalar

/-! Keys and values. Between the elements of a list or an inline table there may be blanks, line ends
and comments, and a comma after the last element. Fuel bounds the number of values, elements and pairs.
-/
namespace GemSurvey.Toml

def skipBlanks (t : Text) : Text := t.dropWhile fun c => c == ' ' || c == '\t'

def skipSpace (inComment : Bool) : Text → Except Fault Text
  | [] => .ok []
  | '\r' :: '\n' :: rest => skipSpace false rest
  | '\n' :: rest => skipSpace false rest
  | c :: rest =>
      if inComment then if isPlain c then skipSpace true rest else .error .badCharacter
      else if c == ' ' || c == '\t' then skipSpace false rest
      else if c == '#' then skipSpace true rest
      else .ok (c :: rest)

def isKeyChar (c : Char) : Bool :=
  isDigit c || ('a' ≤ c && c ≤ 'z') || ('A' ≤ c && c ≤ 'Z') || c == '-' || c == '_'

def readKey (t : Text) : Except Fault (Text × Text) :=
  match t with
  | '"' :: rest => readBasic rest
  | '\x27' :: rest => readLiteral rest
  | t =>
      let key := t.takeWhile isKeyChar
      if key.isEmpty then .error .badKey else .ok (key, t.dropWhile isKeyChar)

def readKeys : Nat → Text → Except Fault ((List Text × Text) × Text)
  | 0, _ => .error .badKey
  | fuel + 1, t => do
      let (key, rest) ← readKey (skipBlanks t)
      match skipBlanks rest with
      | '.' :: rest => do
          let ((path, last), rest) ← readKeys fuel rest
          .ok ((key :: path, last), rest)
      | rest => .ok (([], key), rest)

def depthLimit : Nat := 80

mutual

def readValue : Nat → Nat → Text → Except Fault (Node × Text)
  | 0, _, _ => .error .badValue
  | fuel + 1, depth, t =>
      match t with
      | '[' :: rest =>
          if depthLimit ≤ depth then .error .tooDeep
          else do
            let (items, rest) ← readItems fuel (depth + 1) (← skipSpace false rest)
            .ok (.list items, rest)
      | '\x7b' :: rest =>
          if depthLimit ≤ depth then .error .tooDeep
          else do
            let (entries, rest) ← readPairs fuel (depth + 1) [] (← skipSpace false rest)
            .ok (.table .inline entries, rest)
      | t => match readQuoted? t with
          | some quoted => do
              let (text, rest) ← quoted
              .ok (.text text, rest)
          | none => do
              let (token, rest) := cutBare t
              .ok (← readBare token, rest)

def readItems : Nat → Nat → Text → Except Fault (List Node × Text)
  | 0, _, _ => .error .unclosedList
  | fuel + 1, depth, t =>
      match t with
      | [] => .error .unclosedList
      | ']' :: rest => .ok ([], rest)
      | t => do
          let (item, rest) ← readValue fuel depth t
          match ← skipSpace false rest with
          | ',' :: rest => do
              let (items, rest) ← readItems fuel depth (← skipSpace false rest)
              .ok (item :: items, rest)
          | ']' :: rest => .ok ([item], rest)
          | _ => .error .unclosedList

def readPairs : Nat → Nat → Entries → Text → Except Fault (Entries × Text)
  | 0, _, _, _ => .error .unclosedTable
  | fuel + 1, depth, entries, t =>
      match t with
      | [] => .error .unclosedTable
      | '\x7d' :: rest => .ok (entries, rest)
      | t => do
          let ((path, key), rest) ← readKeys t.length t
          match rest with
          | '=' :: rest => do
              let (node, rest) ← readValue fuel depth (skipBlanks rest)
              let entries ← entries.assign path key node .inline
              match ← skipSpace false rest with
              | ',' :: rest => readPairs fuel depth entries (← skipSpace false rest)
              | '\x7d' :: rest => .ok (entries, rest)
              | _ => .error .unclosedTable
          | _ => .error .noEquals

end

end GemSurvey.Toml
