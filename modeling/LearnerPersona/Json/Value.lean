/-!
# JSON values and their text

The values the library writes.  The compact form has no blanks; the indented form
puts every item and member on a line of its own.  Members keep their order.  Both
forms escape quotes, backslashes and controls in texts and copy all else.
-/

namespace LearnerPersona

inductive Json where
  | null
  | boolean (value : Bool)
  | number (value : Nat)
  | string (text : String)
  | array (items : List Json)
  | object (members : List (String × Json))
  deriving Repr

namespace Json

/-! ## Texts -/

def hexDigit (value : Nat) : Char := Nat.digitChar value

def escaped (char : Char) : List Char :=
  match char with
  | '"' => ['\\', '"']
  | '\\' => ['\\', '\\']
  | '\x08' => ['\\', 'b']
  | '\x0c' => ['\\', 'f']
  | '\n' => ['\\', 'n']
  | '\r' => ['\\', 'r']
  | '\t' => ['\\', 't']
  | _ =>
      if char.toNat < 0x20 then
        ['\\', 'u', '0', '0', hexDigit (char.toNat / 16), hexDigit (char.toNat % 16)]
      else [char]

def stringChars (text : String) : List Char :=
  '"' :: text.toList.flatMap escaped ++ ['"']

/-! ## Compact form -/

mutual

def chars : Json → List Char
  | .null => ['n', 'u', 'l', 'l']
  | .boolean true => ['t', 'r', 'u', 'e']
  | .boolean false => ['f', 'a', 'l', 's', 'e']
  | .number value => Nat.toDigits 10 value
  | .string text => stringChars text
  | .array items => '[' :: itemsChars items ++ [']']
  | .object members => '{' :: membersChars members ++ ['}']

def itemsChars : List Json → List Char
  | [] => []
  | [item] => item.chars
  | item :: next :: items => item.chars ++ ',' :: itemsChars (next :: items)

def membersChars : List (String × Json) → List Char
  | [] => []
  | [(key, value)] => stringChars key ++ ':' :: value.chars
  | (key, value) :: next :: members =>
      stringChars key ++ ':' :: value.chars ++ ',' :: membersChars (next :: members)

end

def compact (value : Json) : String := String.ofList value.chars

/-! ## Indented form -/

/-- A new line, indented by two spaces per level. -/
def newline (level : Nat) : List Char := '\n' :: List.replicate (2 * level) ' '

mutual

def indentedChars (level : Nat) : Json → List Char
  | .array (item :: items) =>
      '[' :: newline (level + 1) ++ indentedItems (level + 1) (item :: items) ++
        newline level ++ [']']
  | .object (member :: members) =>
      '{' :: newline (level + 1) ++ indentedMembers (level + 1) (member :: members) ++
        newline level ++ ['}']
  | value => value.chars

def indentedItems (level : Nat) : List Json → List Char
  | [] => []
  | [item] => item.indentedChars level
  | item :: next :: items =>
      item.indentedChars level ++ ',' :: newline level ++ indentedItems level (next :: items)

def indentedMembers (level : Nat) : List (String × Json) → List Char
  | [] => []
  | [(key, value)] => stringChars key ++ [':', ' '] ++ value.indentedChars level
  | (key, value) :: next :: members =>
      stringChars key ++ [':', ' '] ++ value.indentedChars level ++ ',' :: newline level ++
        indentedMembers level (next :: members)

end

def indented (value : Json) : String := String.ofList (value.indentedChars 0)

end Json

end LearnerPersona
