import GemSurvey.Text.Basic

/-! UTF-8. A sequence of bytes decodes to characters and broken units; a broken unit is the longest
start of a sequence that the next byte cannot continue. Inside a sequence some bytes are owed, the next
of them in a range. Strict reading refuses broken units, lenient reading shows each as one replacement
character. -/
namespace GemSurvey

abbrev Bytes := List UInt8

namespace Text

inductive Pending where
  | none
  | owing (count low high bits : Nat)
  deriving DecidableEq, Repr

def beginUnit (byte : Nat) : List (Option Char) × Pending :=
  if byte < 0x80 then ([some (Char.ofNat byte)], .none)
  else if 0xC2 ≤ byte && byte ≤ 0xDF then ([], .owing 1 0x80 0xBF (byte - 0xC0))
  else if byte == 0xE0 then ([], .owing 2 0xA0 0xBF 0)
  else if byte == 0xED then ([], .owing 2 0x80 0x9F 0xD)
  else if 0xE1 ≤ byte && byte ≤ 0xEF then ([], .owing 2 0x80 0xBF (byte - 0xE0))
  else if byte == 0xF0 then ([], .owing 3 0x90 0xBF 0)
  else if 0xF1 ≤ byte && byte ≤ 0xF3 then ([], .owing 3 0x80 0xBF (byte - 0xF0))
  else if byte == 0xF4 then ([], .owing 3 0x80 0x8F 4)
  else ([none], .none)

def stepUnit (byte : Nat) : Pending → List (Option Char) × Pending
  | .none => beginUnit byte
  | .owing count low high bits =>
      if low ≤ byte && byte ≤ high then
        let bits := bits * 64 + (byte - 0x80)
        if count ≤ 1 then ([some (Char.ofNat bits)], .none)
        else ([], .owing (count - 1) 0x80 0xBF bits)
      else
        let (units, pending) := beginUnit byte
        (none :: units, pending)

def units (pending : Pending) : Bytes → List (Option Char)
  | [] => if pending = .none then [] else [none]
  | byte :: rest =>
      let (done, next) := stepUnit byte.toNat pending
      done ++ units next rest

def decode? (bytes : Bytes) : Option Text := (units .none bytes).mapM id

def decodeLenient (bytes : Bytes) : Text := (units .none bytes).map (·.getD '\ufffd')

def encode (t : Text) : Bytes := t.flatMap String.utf8EncodeChar

end Text
end GemSurvey
