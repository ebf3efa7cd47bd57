import LearnerPersona.Json.Value
import LearnerPersona.Text.Bytes

/-!
# Requests and responses

Messages as far as the service looks at them: a request has a method, a target, a
media type and a body; a response has a status and a body of JSON or plain text.
-/

namespace LearnerPersona.Http

/-! ## Requests -/

inductive Method where
  | get | head | post | patch | delete | options
  | other (name : String)
  deriving DecidableEq, Repr

namespace Method

def ofName (name : String) : Method :=
  if name = "GET" then .get
  else if name = "HEAD" then .head
  else if name = "POST" then .post
  else if name = "PATCH" then .patch
  else if name = "DELETE" then .delete
  else if name = "OPTIONS" then .options
  else .other name

def name : Method → String
  | .get => "GET"
  | .head => "HEAD"
  | .post => "POST"
  | .patch => "PATCH"
  | .delete => "DELETE"
  | .options => "OPTIONS"
  | .other name => name

end Method

/-- A request as a server hands it on.  A target that is no text is refused before any
route is looked at, and a media type that is no text counts as none.  The bound that a
server sets on the size of a body, two megabytes by default, is left out: a longer body is
refused with 400 before it is read. -/
structure Request where
  method : Method
  /-- The path, and a query that is not looked at.  A scheme and a host may stand
  in front. -/
  target : String
  contentType? : Option String := none
  body : Text.Bytes := ""
  deriving DecidableEq, Repr

def isSchemeChar (char : Char) : Bool :=
  char.isAlphanum || char = '+' || char = '-' || char = '.'

def endsPath (char : Char) : Bool := char = '?' || char = '#'

/-- The target without scheme, host, query and fragment.  Behind a host the path of
the root may be left out. -/
def Request.path (request : Request) : List Char :=
  let target := request.target.toList
  match target.dropWhile isSchemeChar with
  | ':' :: '/' :: '/' :: rest =>
      let path := rest.dropWhile fun char => char ≠ '/' && !endsPath char
      if path.head?.all endsPath then ['/'] else path.takeWhile (!endsPath ·)
  | _ => target.takeWhile (!endsPath ·)

/-! ## Responses -/

inductive Content where
  | nothing
  | json (value : Json)
  | text (text : String)
  deriving Repr

def Content.mediaType? : Content → Option String
  | .nothing => none
  | .json _ => some "application/json"
  | .text _ => some "text/plain; charset=utf-8"

structure Response where
  status : Nat
  contentType? : Option String := none
  content : Content := .nothing
  /-- The methods that the target allows, if the response tells. -/
  allowed? : Option (List Method) := none
  deriving Repr

namespace Response

def ofContent (status : Nat) (content : Content) : Response :=
  { status, contentType? := content.mediaType?, content }

def withoutContent (response : Response) : Response :=
  { response with content := .nothing }

end Response

end LearnerPersona.Http
