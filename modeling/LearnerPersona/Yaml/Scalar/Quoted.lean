import LearnerPersona.Text.Hexadecimal
import LearnerPersona.Yaml.Scalar.Gap

/-!
# Quoted scalars

Between single quotes a quote is written twice and nothing else is special.
Between double quotes a backslash starts an escape, and a backslash at the end of
a line joins it to the next.  A document mark may not stand inside.
-/

namespace LearnerPersona.Yaml

/-! ## Escapes -/

def shortEscape? : Char → Option Char
  | '0' => some '\x00'
  | 'a' => some '\x07'
  | 'b' => some '\x08'
  | 't' => some '\t'
  | '\t' => some '\t'
  | 'n' => some '\n'
  | 'v' => some '\x0b'
  | 'f' => some '\x0c'
  | 'r' => some '\r'
  | 'e' => some '\x1b'
  | ' ' => some ' '
  | '"' => some '"'
  | '/' => some '/'
  | '\\' => some '\\'
  | 'N' => some '\u0085'
  | '_' => some '\u00a0'
  | 'L' => some '\u2028'
  | 'P' => some '\u2029'
  | _ => none

def codePoint? (digits : List Char) : Option Char := do
  let code ← Text.hexNumber? digits
  if h : code.isValidChar then some (Char.ofNatAux code h) else none

/-! ## Texts between quotes -/

def Reading.push (chars : List Char) (reading : Reading (List Char)) : Reading (List Char) :=
  reading.map fun (text, cursor) => (chars ++ text, cursor)

def doubleQuoted (gap : Gap) (chars : List Char) (place : Place) : Reading (List Char) :=
  if place.column = 0 && atDocumentMark chars then none
  else
    match chars with
    | [] => none
    | '"' :: rest => some (gap.text, ⟨rest, place.next⟩)
    | '\\' :: 'x' :: a :: b :: rest =>
        (codePoint? [a, b]).bind fun char =>
          (doubleQuoted {} rest (place.skip 4)).push (gap.text ++ [char])
    | '\\' :: 'u' :: a :: b :: c :: d :: rest =>
        (codePoint? [a, b, c, d]).bind fun char =>
          (doubleQuoted {} rest (place.skip 6)).push (gap.text ++ [char])
    | '\\' :: 'U' :: a :: b :: c :: d :: e :: f :: g :: h :: rest =>
        (codePoint? [a, b, c, d, e, f, g, h]).bind fun char =>
          (doubleQuoted {} rest (place.skip 10)).push (gap.text ++ [char])
    | '\\' :: letter :: rest =>
        if isBreak letter then
          (doubleQuoted .escapedBreak rest place.newLine).push gap.text
        else
          (shortEscape? letter).bind fun char =>
            (doubleQuoted {} rest (place.skip 2)).push (gap.text ++ [char])
    | char :: rest =>
        if isBlank char then doubleQuoted (gap.addBlank char) rest place.next
        else if isBreak char then doubleQuoted (gap.addBreak char) rest place.newLine
        else if char = '\\' then none
        else (doubleQuoted {} rest (place.after char)).push (gap.text ++ [char])

def singleQuoted (gap : Gap) (chars : List Char) (place : Place) : Reading (List Char) :=
  if place.column = 0 && atDocumentMark chars then none
  else
    match chars with
    | [] => none
    | '\x27' :: '\x27' :: rest => (singleQuoted {} rest (place.skip 2)).push (gap.text ++ ['\x27'])
    | '\x27' :: rest => some (gap.text, ⟨rest, place.next⟩)
    | char :: rest =>
        if isBlank char then singleQuoted (gap.addBlank char) rest place.next
        else if isBreak char then singleQuoted (gap.addBreak char) rest place.newLine
        else (singleQuoted {} rest (place.after char)).push (gap.text ++ [char])

end LearnerPersona.Yaml
