import GemSurvey.Text.Basic
import GemSurvey.Text.CharClass

/-! Texts between double quotes. A backslash shows quotes, backslashes and the common
controls by a letter, and by its code every other character that would not stand by itself. -/
namespace GemSurvey.Text

def decimal (n : Nat) : Text := Nat.toDigits 10 n

def hex (width n : Nat) : Text :=
  let digits := Nat.toDigits 16 n
  List.replicate (width - digits.length) '0' ++ digits

def escapedChar (c : Char) : Text :=
  match c with
  | '\x00' => ['\\', '0']
  | '\t' => ['\\', 't']
  | '\r' => ['\\', 'r']
  | '\n' => ['\\', 'n']
  | '\\' => ['\\', '\\']
  | '"' => ['\\', '"']
  | c =>
      if extendsGrapheme c || !isPrintable c then ['\\', 'u', '\x7b'] ++ hex 1 c.toNat ++ ['\x7d']
      else [c]

def quoted (t : Text) : Text := ['"'] ++ t.flatMap escapedChar ++ ['"']

def shown : Option Text → Text
  | none => "None"
  | some t => ("Some(" : Text) ++ quoted t ++ [')']

end GemSurvey.Text
