/-!
# Settings of the server

Where the server listens is read from two variables.  A host that is empty and a
port that is no number of 16 bits fall back to the defaults.
-/

namespace LearnerPersona.Http

structure Settings where
  host : String := "0.0.0.0"
  port : UInt16 := 8080
  deriving DecidableEq, Repr

namespace Settings

/-- One decimal digit more.  Nothing wraps around: what 16 bits do not hold is no number. -/
def appendDigit? (number : UInt16) (digit : Char) : Option UInt16 :=
  if digit.isDigit then
    let value := digit.toNat - '0'.toNat
    if number.toNat * 10 + value < UInt16.size then some (number * 10 + value.toUInt16) else none
  else none

def ofDigits? (digits : List Char) : Option UInt16 :=
  if digits.isEmpty then none else digits.foldlM appendDigit? 0

/-- A port number, with or without a plus sign. -/
def port? (text : String) : Option UInt16 :=
  match text.toList with
  | '+' :: digits => ofDigits? digits
  | digits => ofDigits? digits

def ofLookup (lookup : String → Option String) : Settings where
  host := ((lookup "BIND_HOST").filter (!·.isEmpty)).getD "0.0.0.0"
  port := ((lookup "PORT").bind port?).getD 8080

def address (settings : Settings) : String :=
  settings.host ++ ":" ++ toString settings.port.toNat

end Settings

end LearnerPersona.Http
