import GemSurvey.Text.Basic
import GemSurvey.Text.Quoted

/-! Structured values as documents carry them, reading them by shape, and their text as JSON, one field
or element a line, each level two blanks further in. A record may also be given as the list of its
fields in their order; `exact` refuses a list that has elements beyond them. One of a fixed set of words
stands bare or as the only field of a record, with nothing in it. -/
namespace GemSurvey

inductive Datum where
  | null
  | boolean (value : Bool)
  | number (value : Int)
  | text (value : Text)
  | list (items : List Datum)
  | record (fields : List (Text × Datum))
  | other
  deriving Inhabited

namespace Datum

inductive Fault where
  | notText | notBoolean | notList | notRecord | notWord
  | unknownWord (word : Text)
  | missing (field : Text)
  | tooLong
  deriving DecidableEq, Repr

def Fault.message : Fault → Text
  | notText => "expected a string"
  | notBoolean => "expected true or false"
  | notList => "expected an array"
  | notRecord => "expected a table"
  | notWord => "expected one of the known words"
  | unknownWord word => ("unknown word " : Text) ++ word
  | missing field => ("missing field " : Text) ++ field
  | tooLong => "too many elements"

abbrev Fields := List (Text × Datum)

def Fields.get? (fields : Fields) (name : Text) : Option Datum := fields.lookup name

def fields (exact : Bool) (names : List Text) : Datum → Except Fault Fields
  | record fs => .ok fs
  | list items =>
      if exact && names.length < items.length then .error .tooLong else .ok (names.zip items)
  | _ => .error .notRecord

def asText : Datum → Except Fault Text
  | text t => .ok t
  | _ => .error .notText

def asBoolean : Datum → Except Fault Bool
  | boolean value => .ok value
  | _ => .error .notBoolean

def asListOf (read : Datum → Except Fault α) : Datum → Except Fault (List α)
  | list items => items.mapM read
  | _ => .error .notList

def asTexts : Datum → Except Fault (List Text) := asListOf asText

def asOption (read : Datum → Except Fault α) : Datum → Except Fault (Option α)
  | null => .ok none
  | d => (read d).map some

def asWord (words : List (Text × α)) : Datum → Except Fault α
  | text word | record [(word, null)] => match words.lookup word with
      | some value => .ok value
      | none => .error (.unknownWord word)
  | _ => .error .notWord

def Fields.required (fs : Fields) (name : Text) (read : Datum → Except Fault α) : Except Fault α :=
  match fs.get? name with
  | some d => read d
  | none => .error (.missing name)

def Fields.default (fs : Fields) (name : Text) (value : α) (read : Datum → Except Fault α) :
    Except Fault α :=
  match fs.get? name with
  | some d => read d
  | none => .ok value

end Datum
end GemSurvey

namespace GemSurvey.Datum

def jsonChar (c : Char) : Text :=
  match c with
  | '"' => ['\\', '"']
  | '\\' => ['\\', '\\']
  | '\x08' => ['\\', 'b']
  | '\x0c' => ['\\', 'f']
  | '\n' => ['\\', 'n']
  | '\r' => ['\\', 'r']
  | '\t' => ['\\', 't']
  | c => if c.toNat < 32 then ['\\', 'u'] ++ Text.hex 4 c.toNat else [c]

def jsonText (t : Text) : Text := ['"'] ++ t.flatMap jsonChar ++ ['"']

def newline (level : Nat) : Text := '\n' :: List.replicate (2 * level) ' '

def block (opening closing : Char) (level : Nat) (parts : List Text) : Text :=
  if parts.isEmpty then [opening, closing]
  else
    let lines := parts.map fun part => newline (level + 1) ++ part
    opening :: Text.join [','] lines ++ newline level ++ [closing]

mutual

def json (level : Nat) : Datum → Text
  | null | other => "null"
  | boolean true => "true"
  | boolean false => "false"
  | number n => (if n < 0 then ['-'] else []) ++ Text.decimal n.natAbs
  | text t => jsonText t
  | list items => block '[' ']' level (jsonItems (level + 1) items)
  | record fs => block '\x7b' '\x7d' level (jsonFields (level + 1) fs)

def jsonItems (level : Nat) : List Datum → List Text
  | [] => []
  | d :: rest => json level d :: jsonItems level rest

def jsonFields (level : Nat) : List (Text × Datum) → List Text
  | [] => []
  | (name, d) :: rest =>
      (jsonText name ++ (": " : Text) ++ json level d) :: jsonFields level rest

end

end GemSurvey.Datum
