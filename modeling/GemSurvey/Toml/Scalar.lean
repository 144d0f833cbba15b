import GemSurvey.Toml.Table

/-! Values without quotes: truth values, numbers, dates and times. Of numbers and dates only form and
range are checked, as nothing asks for their value. Single underscores may stand between digits, and a
decimal begins with no zero unless it stands alone. A real must be finite: `realLimit` is the least
number that rounds to infinity, with as many digits as any finite one. Four digits and a hyphen announce
a date, two digits and a colon a time; both make one value with a blank between. The seconds may be left
out, and 60 is a leap second. -/
namespace GemSurvey.Toml

def isDigit (c : Char) : Bool := '0' ≤ c && c ≤ '9'

def isHexDigit (c : Char) : Bool := isDigit c || ('a' ≤ c && c ≤ 'f') || ('A' ≤ c && c ≤ 'F')

def digitValue (c : Char) : Nat :=
  if isDigit c then c.toNat - '0'.toNat
  else if 'a' ≤ c then c.toNat - 'a'.toNat + 10 else c.toNat - 'A'.toNat + 10

def grouped (digit : Char → Bool) (t : Text) : Bool :=
  (Text.cut '_' t).all fun piece => !piece.isEmpty && piece.all digit

def valueIn (base : Nat) (t : Text) : Nat :=
  (t.filter (· != '_')).foldl (fun n c => n * base + digitValue c) 0

def unsign : Text → Bool × Text
  | '-' :: t => (true, t)
  | '+' :: t => (false, t)
  | t => (false, t)

def isDecimal (t : Text) : Bool :=
  grouped isDigit t && (t.head? != some '0' || t.length == 1)

def limit : Nat := Nat.pow 2 63

def inRange (negative : Bool) (value : Nat) : Bool :=
  value < limit || (negative && value == limit)

def realLimit : Nat := Nat.pow 2 1024 - Nat.pow 2 970

def realDigits : Nat := 309

def isFinite (value : Nat) (exponent : Int) : Bool :=
  let size := (Nat.toDigits 10 value).length + exponent
  if value = 0 || size < realDigits then true
  else if realDigits < size then false
  else if 0 ≤ exponent then value * Nat.pow 10 exponent.toNat < realLimit
  else value < realLimit * Nat.pow 10 exponent.natAbs

def readReal (t : Text) : Except Fault Node :=
  let isMark := fun c => c == 'e' || c == 'E'
  let mantissa := t.takeWhile (!isMark ·)
  let power := t.dropWhile (!isMark ·)
  let whole := mantissa.takeWhile (· != '.')
  let fraction := mantissa.dropWhile (· != '.')
  let (down, exponent) := unsign (power.drop 1)
  if isDecimal whole && (fraction.isEmpty || grouped isDigit (fraction.drop 1)) &&
      (power.isEmpty || grouped isDigit exponent) then
    let places := (fraction.drop 1).filter isDigit
    let shift : Int := if down then -(valueIn 10 exponent : Int) else valueIn 10 exponent
    if isFinite (valueIn 10 (whole ++ places)) (shift - places.length) then .ok .number
    else .error .outOfRange
  else .error .badNumber

def readNumber (t : Text) : Except Fault Node :=
  let radix := fun digit base body =>
    if !grouped digit body then .error .badNumber
    else if valueIn base body < limit then .ok Node.number else .error .outOfRange
  match t with
  | '0' :: 'x' :: body => radix isHexDigit 16 body
  | '0' :: 'o' :: body => radix (fun c => '0' ≤ c && c ≤ '7') 8 body
  | '0' :: 'b' :: body => radix (fun c => c == '0' || c == '1') 2 body
  | t =>
      let (negative, body) := unsign t
      if body = "inf" ∨ body = "nan" then .ok .number
      else if isDecimal body then
        if inRange negative (valueIn 10 body) then .ok .number else .error .outOfRange
      else if body.any fun c => c == '.' || c == 'e' || c == 'E' then readReal body
      else .error .badNumber

def twoDigits? : Text → Option (Nat × Text)
  | a :: b :: rest =>
      if isDigit a && isDigit b then some (digitValue a * 10 + digitValue b, rest) else none
  | _ => none

def isLeap (year : Nat) : Bool := (year % 4 == 0 && year % 100 != 0) || year % 400 == 0

def daysIn (year month : Nat) : Nat :=
  if month = 2 then (if isLeap year then 29 else 28)
  else if month = 4 ∨ month = 6 ∨ month = 9 ∨ month = 11 then 30 else 31

def afterDate? (t : Text) : Option Text := do
  let (century, t) ← twoDigits? t
  let (year, t) ← twoDigits? t
  let (month, t) ← twoDigits? (← Text.after? ['-'] t)
  let (day, t) ← twoDigits? (← Text.after? ['-'] t)
  if 1 ≤ month && month ≤ 12 && 1 ≤ day && day ≤ daysIn (century * 100 + year) month then some t
  else none

def afterFraction? : Text → Option Text
  | '.' :: t => if (t.head?).any isDigit then some (t.dropWhile isDigit) else none
  | t => some t

def afterTime? (t : Text) : Option Text := do
  let (hour, t) ← twoDigits? t
  let (minute, t) ← twoDigits? (← Text.after? [':'] t)
  if 23 < hour || 59 < minute then none
  else match t with
    | ':' :: t => do
        let (second, t) ← twoDigits? t
        if 60 < second then none else afterFraction? t
    | t => some t

def isZone : Text → Bool
  | [] => true
  | ['Z'] | ['z'] => true
  | sign :: t =>
      let span : Option (Nat × Nat × Text) := do
        let (hour, t) ← twoDigits? t
        let (minute, t) ← twoDigits? (← Text.after? [':'] t)
        some (hour, minute, t)
      match span with
      | some (hour, minute, []) =>
          (sign == '+' || sign == '-') && minute ≤ 59 && hour * 60 + minute ≤ 24 * 60
      | _ => false

def isDate (t : Text) : Bool :=
  match afterDate? t with
  | some [] => true
  | some (mark :: t) =>
      (mark == 'T' || mark == 't' || mark == ' ') && (afterTime? t).any isZone
  | none => (afterTime? t).any (·.isEmpty)

def looksDated : Text → Bool
  | a :: b :: ':' :: _ => isDigit a && isDigit b
  | a :: b :: c :: d :: '-' :: _ => isDigit a && isDigit b && isDigit c && isDigit d
  | _ => false

def isBareChar (c : Char) : Bool :=
  isDigit c || ('a' ≤ c && c ≤ 'z') || ('A' ≤ c && c ≤ 'Z') ||
    c == '+' || c == '-' || c == '_' || c == '.' || c == ':'

def cutBare (t : Text) : Text × Text :=
  let first := t.takeWhile isBareChar
  let rest := t.dropWhile isBareChar
  match rest with
  | ' ' :: later =>
      if (afterDate? first) = some [] ∧ (later.head?).any isDigit then
        (first ++ ' ' :: later.takeWhile isBareChar, later.dropWhile isBareChar)
      else (first, rest)
  | _ => (first, rest)

def readBare (token : Text) : Except Fault Node :=
  if token = [] then .error .badValue
  else if token = "true" then .ok (.boolean true)
  else if token = "false" then .ok (.boolean false)
  else if looksDated token then if isDate token then .ok .date else .error .badDate
  else if (token.head?).any fun c => isDigit c || c == '+' || c == '-' || c == 'i' || c == 'n' then
    readNumber token
  else .error .badValue

end GemSurvey.Toml
