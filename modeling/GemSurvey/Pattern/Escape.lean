import GemSurvey.Pattern.Property

/-! What can be wrong with a pattern; flags, insignificant space, and what follows a backslash. Without
Unicode a set must not reach beyond ASCII, and two plain hexadecimal digits name a byte, which must be
an ASCII character. The letter of a word edge may have a name in braces after it, unless a count stands
there. -/
namespace GemSurvey.Pattern

inductive Fault where
  | unclosedGroup | unopenedGroup | unclosedClass | badRange
  | nothingToRepeat | badCount
  | badEscape | badFlag | badGroupName | lookAround
  | unknownProperty
  | beyondAscii
  | tooLarge | tooDeep
  deriving DecidableEq, Repr

def Fault.message : Fault → String
  | unclosedGroup => "unclosed group"
  | unopenedGroup => "unopened group"
  | unclosedClass => "unclosed character class"
  | badRange => "invalid character class range"
  | nothingToRepeat => "repetition operator missing expression"
  | badCount => "invalid repetition count"
  | badEscape => "unrecognized or incomplete escape sequence"
  | badFlag => "unrecognized, repeated or dangling flag"
  | badGroupName => "invalid capture group name"
  | lookAround => "look-around is not supported"
  | unknownProperty => "unknown character property"
  | beyondAscii => "set reaches beyond ASCII without Unicode"
  | tooLarge => "pattern is too large"
  | tooDeep => "pattern is nested too deep"

structure Flags where
  ignoreCase : Bool := false
  multiLine : Bool := false
  dotAll : Bool := false
  spaced : Bool := false
  returns : Bool := false
  unicode : Bool := true
  deriving DecidableEq, Repr

namespace Flags

def set? (f : Flags) (letter : Char) (on : Bool) : Option Flags :=
  match letter with
  | 'i' => some { f with ignoreCase := on }
  | 'm' => some { f with multiLine := on }
  | 's' => some { f with dotAll := on }
  | 'x' => some { f with spaced := on }
  | 'R' => some { f with returns := on }
  | 'u' => some { f with unicode := on }
  | 'U' => some f
  | _ => none

def word (f : Flags) : CharSet := if f.unicode then Text.isWord else Text.isAsciiWord

def cased (f : Flags) (set : CharSet) : CharSet :=
  if f.ignoreCase then set.ignoringCase f.unicode else set

def admits (f : Flags) (set : CharSet) : Bool := f.unicode || !set '\u0080'

end Flags

def skipBlank (inComment : Bool) : Text → Text
  | [] => []
  | c :: rest =>
      if inComment then skipBlank (c != '\n') rest
      else if Text.isBlank c then skipBlank false rest
      else if c == '#' then skipBlank true rest
      else c :: rest

def skip (f : Flags) (t : Text) : Text := if f.spaced then skipBlank false t else t

inductive Element where
  | literal (c : Char)
  | set (s : CharSet)
  | anchor (a : Anchor)

def hexValue? (c : Char) : Option Nat :=
  if Text.isAsciiDigit c then some (c.toNat - '0'.toNat)
  else if 'a' ≤ c.toLower && c.toLower ≤ 'f' then some (c.toLower.toNat - 'a'.toNat + 10)
  else none

def scalar? (code : Nat) : Option Char :=
  if code < 0xD800 || (0xE000 ≤ code && code < 0x110000) then some (Char.ofNat code) else none

def readHexDigits (f : Flags) : Nat → Nat → Text → Except Fault (Nat × Text)
  | 0, value, t => .ok (value, t)
  | n + 1, value, t =>
      match skip f t with
      | c :: rest => match hexValue? c with
          | some d => readHexDigits f n (value * 16 + d) rest
          | none => .error .badEscape
      | [] => .error .badEscape

def readHexBraces (f : Flags) : Nat → Option Nat → Text → Except Fault (Nat × Text)
  | 0, _, _ => .error .badEscape
  | fuel + 1, value, t =>
      match skip f t with
      | '}' :: rest => match value with
          | some v => .ok (v, rest)
          | none => .error .badEscape
      | c :: rest => match hexValue? c with
          | some d => readHexBraces f fuel (some (value.getD 0 * 16 + d)) rest
          | none => .error .badEscape
      | [] => .error .badEscape

def readHex (f : Flags) (digits : Nat) (t : Text) : Except Fault (Char × Text) := do
  let t := skip f t
  let braces := t.head? = some '{'
  let (code, rest) ← if braces then readHexBraces f t.length none (t.drop 1)
    else readHexDigits f digits 0 t
  match scalar? code with
  | some c =>
      if !f.unicode && !braces && digits == 2 && code ≥ 0x80 then .error .beyondAscii
      else .ok (c, rest)
  | none => .error .badEscape

def readBraced (f : Flags) : Nat → Text → Option (Text × Text)
  | 0, _ => none
  | fuel + 1, t =>
      match skip f t with
      | '}' :: rest => some ([], rest)
      | c :: rest => (readBraced f fuel rest).map fun (name, rest) => (c :: name, rest)
      | [] => none

def cutName (separator : Text) : Text → Option (Text × Text)
  | [] => none
  | c :: rest =>
      match Text.after? separator (c :: rest) with
      | some value => some ([], value)
      | none => (cutName separator rest).map fun (kind, value) => (c :: kind, value)

def lookUpProperty (name : Text) : Option CharSet :=
  match cutName "!=" name with
  | some (kind, value) => (propertyValue? kind value).map CharSet.compl
  | none => match cutName ":" name with
      | some (kind, value) => propertyValue? kind value
      | none => match cutName "=" name with
          | some (kind, value) => propertyValue? kind value
          | none => property? name

def readProperty (f : Flags) (negated : Bool) (t : Text) : Except Fault (Element × Text) := do
  let (name, rest) ← match skip f t with
    | '{' :: rest => match readBraced f rest.length rest with
        | some found => .ok found
        | none => .error .badEscape
    | '\\' :: _ => .error .badEscape
    | c :: rest => .ok ([c], rest)
    | [] => .error .badEscape
  if !f.unicode then .error .beyondAscii
  else match lookUpProperty name with
    | some set =>
        let set := f.cased set
        .ok (.set (if negated then set.compl else set), rest)
    | none => .error .unknownProperty

def readClassLetter (f : Flags) (letter : Char) (rest : Text) : Except Fault (Element × Text) :=
  let plain : CharSet := match letter.toLower with
    | 'd' => if f.unicode then Text.isDigit else Text.isAsciiDigit
    | 's' => if f.unicode then Text.isBlank else fun c => c == ' ' || CharSet.between '\t' '\r' c
    | _ => f.word
  let set := if letter.isUpper then plain.compl else plain
  if f.admits set then .ok (.set set, rest) else .error .beyondAscii

def isMeta (c : Char) : Bool := "\\.+*?()|[]{}^$#&-~".toList.contains c

def isEscapable (c : Char) : Bool :=
  isMeta c || (Text.isAscii c && !Text.isAsciiLetter c && !Text.isAsciiDigit c && c != '<' && c != '>')

def edgeByName? (word : CharSet) (name : Text) : Option Anchor :=
  if name = "start" then some (.wordStart word)
  else if name = "end" then some (.wordEnd word)
  else if name = "start-half" then some (.noWordBefore word)
  else if name = "end-half" then some (.noWordAfter word)
  else none

def isEdgeLetter (c : Char) : Bool := Text.isAsciiLetter c || c == '-'

def readEdgeName (f : Flags) : Nat → Text → Text × Text
  | 0, t => ([], t)
  | fuel + 1, t =>
      match skip f t with
      | c :: rest =>
          if isEdgeLetter c then
            let (name, rest) := readEdgeName f fuel rest
            (c :: name, rest)
          else ([], c :: rest)
      | [] => ([], [])

def readEdge (f : Flags) (t : Text) : Except Fault (Element × Text) :=
  let plain := Element.anchor (.wordEdge f.word)
  match t with
  | '{' :: inner =>
      match skip f inner with
      | [] => .error .badEscape
      | c :: rest =>
          if isEdgeLetter c then
            let (name, rest) := readEdgeName f (rest.length + 1) (c :: rest)
            match rest, edgeByName? f.word name with
            | '}' :: rest, some edge => .ok (.anchor edge, rest)
            | _, _ => .error .badEscape
          else .ok (plain, t)
  | _ => .ok (plain, t)

def readEscape (f : Flags) : Text → Except Fault (Element × Text)
  | [] => .error .badEscape
  | c :: rest =>
      if c == 'x' || c == 'u' || c == 'U' then do
        let digits := if c == 'x' then 2 else if c == 'u' then 4 else 8
        let (ch, rest) ← readHex f digits rest
        .ok (.literal ch, rest)
      else if c == 'p' || c == 'P' then readProperty f (c == 'P') rest
      else if "dswDSW".toList.contains c then readClassLetter f c rest
      else if isEscapable c then .ok (.literal c, rest)
      else match c with
        | 'a' => .ok (.literal '\x07', rest)
        | 'f' => .ok (.literal '\x0c', rest)
        | 't' => .ok (.literal '\t', rest)
        | 'n' => .ok (.literal '\n', rest)
        | 'r' => .ok (.literal '\r', rest)
        | 'v' => .ok (.literal '\x0b', rest)
        | 'A' => .ok (.anchor .textStart, rest)
        | 'z' => .ok (.anchor .textEnd, rest)
        | 'b' => readEdge f rest
        | 'B' => .ok (.anchor (.noWordEdge f.word), rest)
        | '<' => .ok (.anchor (.wordStart f.word), rest)
        | '>' => .ok (.anchor (.wordEnd f.word), rest)
        | _ => .error .badEscape

end GemSurvey.Pattern
