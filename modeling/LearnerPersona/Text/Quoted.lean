import LearnerPersona.Text.Shapeless

/-!
# Quoted text in messages

A message quotes a text between double quotes.  Quotes and backslashes are
escaped, the usual controls have short escapes, and a character that cannot be
seen by itself is written by its code point.
-/

namespace LearnerPersona.Text

def quotedChar (char : Char) : List Char :=
  match char with
  | '"' => ['\\', '"']
  | '\\' => ['\\', '\\']
  | '\n' => ['\\', 'n']
  | '\r' => ['\\', 'r']
  | '\t' => ['\\', 't']
  | '\x00' => ['\\', '0']
  | _ =>
      if shapeless char then
        ['\\', 'u', '{'] ++ Nat.toDigits 16 char.toNat ++ ['}']
      else [char]

/-- The text between quotes, with nothing in it that a reader could not see. -/
def quoted (text : String) : String :=
  String.ofList ('"' :: text.toList.flatMap quotedChar ++ ['"'])

end LearnerPersona.Text
