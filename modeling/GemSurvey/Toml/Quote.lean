import GemSurvey.Toml.Table

/-! Quoted texts: within double quotes a backslash begins an escape, within single quotes it stands for
itself. Three quotes open a text over several lines, where a line end right after them does not count
and one or two quotes may stand before the closing three. A backslash before a line end passes over the
blanks up to it, and then over blanks and line ends. -/
namespace GemSurvey.Toml

def isPlain (c : Char) : Bool := c == '\t' || (32 ≤ c.toNat && c.toNat != 127)

def hexValue? (c : Char) : Option Nat :=
  if '0' ≤ c && c ≤ '9' then some (c.toNat - '0'.toNat)
  else if 'a' ≤ c && c ≤ 'f' then some (c.toNat - 'a'.toNat + 10)
  else if 'A' ≤ c && c ≤ 'F' then some (c.toNat - 'A'.toNat + 10)
  else none

def hexNumber? (digits : List Char) : Option Nat :=
  digits.foldlM (fun n c => (hexValue? c).map (n * 16 + ·)) 0

def coded? (digits : List Char) : Option Char := do
  let code ← hexNumber? digits
  if code < 0xD800 || (0xE000 ≤ code && code < 0x110000) then some (Char.ofNat code) else none

def letterEscape? : Char → Option Char
  | 'b' => some '\x08'
  | 't' => some '\t'
  | 'n' => some '\n'
  | 'f' => some '\x0c'
  | 'r' => some '\r'
  | 'e' => some '\x1b'
  | '"' => some '"'
  | '\\' => some '\\'
  | _ => none

def pushChar (c : Option Char) (r : Except Fault (Text × Text)) : Except Fault (Text × Text) :=
  match c with
  | some c => r.map fun (t, rest) => (c :: t, rest)
  | none => .error .badEscape

def readBasic : Text → Except Fault (Text × Text)
  | '"' :: rest => .ok ([], rest)
  | '\\' :: 'x' :: a :: b :: rest => pushChar (coded? [a, b]) (readBasic rest)
  | '\\' :: 'u' :: a :: b :: c :: d :: rest => pushChar (coded? [a, b, c, d]) (readBasic rest)
  | '\\' :: 'U' :: a :: b :: c :: d :: e :: f :: g :: h :: rest =>
      pushChar (coded? [a, b, c, d, e, f, g, h]) (readBasic rest)
  | '\\' :: c :: rest => pushChar (letterEscape? c) (readBasic rest)
  | c :: rest => if isPlain c then pushChar (some c) (readBasic rest) else .error .badCharacter
  | [] => .error .unclosedText

def readLiteral : Text → Except Fault (Text × Text)
  | '\x27' :: rest => .ok ([], rest)
  | c :: rest => if isPlain c then pushChar (some c) (readLiteral rest) else .error .badCharacter
  | [] => .error .unclosedText

def closeLong (quote : Char) : Text → Text × Text
  | a :: b :: rest =>
      if a == quote && b == quote then ([quote, quote], rest)
      else if a == quote then ([quote], b :: rest) else ([], a :: b :: rest)
  | [a] => if a == quote then ([quote], []) else ([], [a])
  | [] => ([], [])

inductive Skipping where
  | none | dueLineEnd | blanks
  deriving DecidableEq, Repr

def readLongBasic (mode : Skipping) : Text → Except Fault (Text × Text)
  | [] => .error .unclosedText
  | '\r' :: '\n' :: rest => match mode with
      | .none => pushChar (some '\r') (pushChar (some '\n') (readLongBasic .none rest))
      | _ => readLongBasic .blanks rest
  | '\n' :: rest => match mode with
      | .none => pushChar (some '\n') (readLongBasic .none rest)
      | _ => readLongBasic .blanks rest
  | ' ' :: rest => match mode with
      | .none => pushChar (some ' ') (readLongBasic .none rest)
      | mode => readLongBasic mode rest
  | '\t' :: rest => match mode with
      | .none => pushChar (some '\t') (readLongBasic .none rest)
      | mode => readLongBasic mode rest
  | '"' :: '"' :: '"' :: rest =>
      if mode = .dueLineEnd then .error .badEscape else .ok (closeLong '"' rest)
  | '\\' :: 'x' :: a :: b :: rest =>
      if mode = .dueLineEnd then .error .badEscape
      else pushChar (coded? [a, b]) (readLongBasic .none rest)
  | '\\' :: 'u' :: a :: b :: c :: d :: rest =>
      if mode = .dueLineEnd then .error .badEscape
      else pushChar (coded? [a, b, c, d]) (readLongBasic .none rest)
  | '\\' :: 'U' :: a :: b :: c :: d :: e :: f :: g :: h :: rest =>
      if mode = .dueLineEnd then .error .badEscape
      else pushChar (coded? [a, b, c, d, e, f, g, h]) (readLongBasic .none rest)
  | '\\' :: '\r' :: '\n' :: rest =>
      if mode = .dueLineEnd then .error .badEscape else readLongBasic .blanks rest
  | '\\' :: c :: rest =>
      if mode = .dueLineEnd then .error .badEscape
      else if c == '\n' then readLongBasic .blanks rest
      else if c == ' ' || c == '\t' then readLongBasic .dueLineEnd rest
      else pushChar (letterEscape? c) (readLongBasic .none rest)
  | c :: rest =>
      if mode = .dueLineEnd then .error .badEscape
      else if isPlain c then pushChar (some c) (readLongBasic .none rest)
      else .error .badCharacter

def readLongLiteral : Text → Except Fault (Text × Text)
  | [] => .error .unclosedText
  | '\x27' :: '\x27' :: '\x27' :: rest => .ok (closeLong '\x27' rest)
  | '\r' :: '\n' :: rest => pushChar (some '\r') (pushChar (some '\n') (readLongLiteral rest))
  | c :: rest =>
      if isPlain c || c == '\n' then pushChar (some c) (readLongLiteral rest)
      else .error .badCharacter

def dropLineEnd : Text → Text
  | '\n' :: rest => rest
  | '\r' :: '\n' :: rest => rest
  | t => t

def readQuoted? : Text → Option (Except Fault (Text × Text))
  | '"' :: '"' :: '"' :: rest => some (readLongBasic .none (dropLineEnd rest))
  | '\x27' :: '\x27' :: '\x27' :: rest => some (readLongLiteral (dropLineEnd rest))
  | '"' :: rest => some (readBasic rest)
  | '\x27' :: rest => some (readLiteral rest)
  | _ => none

end GemSurvey.Toml
