/-!
# Media types

A media type names a kind and a subtype, perhaps with a suffix behind a plus sign,
and may carry parameters.  A text that breaks the grammar anywhere is no media
type, so its parameters are read to the end although nobody asks for them.
-/

namespace LearnerPersona.Http

structure MediaType where
  kind : List Char
  subtype : List Char
  /-- What follows the last plus sign of the subtype. -/
  suffix? : Option (List Char)
  deriving DecidableEq, Repr

namespace MediaType

/-! ## Grammar -/

def isToken (char : Char) : Bool :=
  char.isAlphanum || ['!', '#', '$', '%', '&', '\x27', '*', '+', '-', '.', '^', '_', '\u0060',
    '|', '~'].contains char

def isQuoted (char : Char) : Bool := 0x1F < char.toNat && char.toNat < 0x7F

mutual

def parameters : List Char → Bool
  | [] => true
  | ' ' :: chars => parameters chars
  | char :: chars => isToken char && parameterName chars

def parameterName : List Char → Bool
  | [] => false
  | '=' :: '"' :: chars => quotedStart chars
  | '=' :: chars => valueStart chars
  | char :: chars => isToken char && parameterName chars

/-- A value without quotes; it may be empty at the very end only. -/
def valueStart : List Char → Bool
  | [] => true
  | char :: chars => isToken char && valueRest chars

def valueRest : List Char → Bool
  | [] => true
  | ';' :: chars => parameters chars
  | char :: chars => isToken char && valueRest chars

/-- The first character of a quoted value, which may be a quote itself. -/
def quotedStart : List Char → Bool
  | [] => false
  | char :: chars => isQuoted char && quotedRest chars

def quotedRest : List Char → Bool
  | [] => false
  | '"' :: chars => afterQuoted chars
  | char :: chars => isQuoted char && quotedRest chars

def afterQuoted : List Char → Bool
  | [] => true
  | ' ' :: chars => afterQuoted chars
  | ';' :: chars => parameters chars
  | _ => false

end

/-- The subtype cut at its last plus sign, which does not count at the beginning. -/
def splitSuffix (chars : List Char) : List Char × Option (List Char) :=
  let suffix := (chars.reverse.takeWhile (· ≠ '+')).reverse
  if suffix.length + 1 < chars.length then
    (chars.take (chars.length - suffix.length - 1), some suffix)
  else (chars, none)

def ofText? (text : String) : Option MediaType :=
  let chars := text.toList
  let kind := chars.takeWhile isToken
  match chars.drop kind.length with
  | '/' :: rest =>
      let whole := rest.takeWhile isToken
      let isGood :=
        match rest.drop whole.length with
        | [] => true
        | ';' :: rest => !whole.isEmpty && parameters rest
        | _ => false
      let (subtype, suffix?) := splitSuffix (whole.map Char.toLower)
      if kind.isEmpty || !isGood then none
      else some ⟨kind.map Char.toLower, subtype, suffix?⟩
  | _ => none

/-! ## JSON -/

def jsonName : List Char := ['j', 's', 'o', 'n']

/-- The type is the one for JSON, or one for a format written in JSON. -/
def isJson (type : MediaType) : Bool :=
  String.ofList type.kind = "application" &&
    (type.subtype = jsonName || type.suffix? = some jsonName)

end MediaType

end LearnerPersona.Http
