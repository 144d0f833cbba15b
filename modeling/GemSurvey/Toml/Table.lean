import GemSurvey.Datum.Basic

/-! Tables as a document builds them. A table remembers how it came about: a header, a dotted key or an
inline value gives a table of its own, a longer header only implies one. What is missing on the way to a
key is made, dotted by a dotted key and implied by a header, but a dotted key does not reach into headed
tables; a header makes its table, or takes over one that was only implied. Under a repeated header the
newest table comes first. -/
namespace GemSurvey.Toml

inductive Fault where
  | duplicate (key : Text)
  | notTable (key : Text)
  | badKey | badValue | badNumber | outOfRange | badDate
  | badEscape | badCharacter | unclosedText
  | unclosedList | unclosedTable | unclosedHeader
  | noEquals | trailing | tooDeep
  deriving DecidableEq, Repr

def Fault.message : Fault → Text
  | duplicate key => ("duplicate key " : Text) ++ key
  | notTable key => ("cannot extend a value that is no table: " : Text) ++ key
  | badKey => "invalid key"
  | badValue => "invalid value"
  | badNumber => "invalid number"
  | outOfRange => "number out of range"
  | badDate => "invalid date or time"
  | badEscape => "invalid escape sequence"
  | badCharacter => "invalid control character"
  | unclosedText => "unclosed string"
  | unclosedList => "unclosed array"
  | unclosedTable => "unclosed inline table"
  | unclosedHeader => "unclosed table header"
  | noEquals => "key without a value"
  | trailing => "unexpected text at the end of the line"
  | tooDeep => "values nested too deep"

inductive Origin where
  | header | implied | dotted | inline
  deriving DecidableEq, Repr

inductive Node where
  | text (t : Text)
  | boolean (value : Bool)
  | number
  | date
  | list (items : List Node)
  | table (origin : Origin) (entries : List (Text × Node))
  | tables (elements : List (List (Text × Node)))

abbrev Entries := List (Text × Node)

namespace Entries

def set (entries : Entries) (key : Text) (node : Node) : Entries :=
  match entries with
  | [] => [(key, node)]
  | entry :: rest => if entry.1 = key then (key, node) :: rest else entry :: set rest key node

def alter (byKey : Bool) (change : Origin → Entries → Except Fault Entries) :
    List Text → Origin → Entries → Except Fault Entries
  | [], origin, entries => change origin entries
  | key :: path, _, entries =>
      match entries.lookup key with
      | none => do
          let origin := if byKey then .dotted else .implied
          .ok (set entries key (.table origin (← alter byKey change path origin [])))
      | some (.table origin inner) =>
          if origin = .inline then .error (.notTable key)
          else if byKey && origin = .header then .error (.duplicate key)
          else do .ok (set entries key (.table origin (← alter byKey change path origin inner)))
      | some (.tables (newest :: older)) => do
          .ok (set entries key (.tables ((← alter byKey change path .header newest) :: older)))
      | some _ => .error (.notTable key)

def assign (path : List Text) (key : Text) (node : Node) (origin : Origin) (entries : Entries) :
    Except Fault Entries :=
  alter true (fun made inner =>
    if !path.isEmpty && made ≠ .dotted then .error (.duplicate key)
    else if (inner.lookup key).isSome then .error (.duplicate key)
    else .ok (set inner key node)) path origin entries

def openTable (path : List Text) (key : Text) (entries : Entries) : Except Fault Entries :=
  alter false (fun _ inner =>
    match inner.lookup key with
    | none => .ok (set inner key (.table .header []))
    | some (.table .implied held) => .ok (set inner key (.table .header held))
    | some _ => .error (.duplicate key)) path .header entries

def openElement (path : List Text) (key : Text) (entries : Entries) : Except Fault Entries :=
  alter false (fun _ inner =>
    match inner.lookup key with
    | none => .ok (set inner key (.tables [[]]))
    | some (.tables elements) => .ok (set inner key (.tables ([] :: elements)))
    | some _ => .error (.duplicate key)) path .header entries

end Entries

mutual

def Node.datum : Node → Datum
  | .text t => .text t
  | .boolean value => .boolean value
  | .number => .other
  | .date => .record []
  | .list items => .list (datums items)
  | .table _ entries => .record (fieldsOf entries)
  | .tables elements => .list (records elements).reverse

def datums : List Node → List Datum
  | [] => []
  | node :: rest => node.datum :: datums rest

def fieldsOf : List (Text × Node) → List (Text × Datum)
  | [] => []
  | (key, node) :: rest => (key, node.datum) :: fieldsOf rest

def records : List (List (Text × Node)) → List Datum
  | [] => []
  | entries :: rest => .record (fieldsOf entries) :: records rest

end

end GemSurvey.Toml
