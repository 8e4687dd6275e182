import Flowchart.Encoding.Utf
import Flowchart.Http.Field
import Flowchart.Url.Parser

/-!
# Requests under construction

A request starts as a method and a url and takes on fields and a body. It may turn out that it
cannot be sent, which a fault says; the first fault is the one that counts.
-/

namespace Flowchart.Http

/-- A request that is about to be sent. -/
structure Call where
  method : String
  url : Url
  headers : Headers
  body : String
  deriving Inhabited

/-- Why a request brought no response. -/
inductive SendFault where
  /-- The request cannot be sent at all; the url if that is the reason. -/
  | malformed (url : Option Url)
  | undelivered (url : Url)
  | tooManyRedirections (url : Url)
  deriving Inhabited

/-- The wording of a fault. -/
def SendFault.message : SendFault → String
  | malformed none => "builder error"
  | malformed (some url) => s!"builder error for url ({url.text})"
  | undelivered url => s!"error sending request for url ({url.text})"
  | tooManyRedirections url => s!"error following redirect for url ({url.text})"

/-! ## Targets -/

/-- Characters that a host may hold for a url but not in a request. -/
def isRefusedInHost (c : Char) : Bool :=
  ['"', '\x60', '\x7b', '\x7d', '<', '>', '\\', '^', '|', ' '].contains c

/-- Whether a url can be the target of a request. A url without a host must look like a host and a
port. -/
def isTarget (url : Url) : Bool :=
  url.text.utf8ByteSize < 65535 &&
    match url.host with
    | some host => !host.any isRefusedInHost
    | none =>
        let text := url.text.toList
        let behindUser := (text.reverse.takeWhile (· ≠ '@')).reverse
        !text.any (fun c => isRefusedInHost c || c = '/' || c = '?') &&
          (behindUser.filter (· = ':')).length ≤ 1

/-! ## Construction -/

/-- The user name and password that a url holds, with their encoding undone. -/
def userOf? (url : Url) : Option (String × Option String) := do
  let user ← Url.decodeText? url.user
  let password := url.password.bind Url.decodeText?
  if user.isEmpty && password.isNone then none else some (user, password)

/-- The value of a field that proves a user by a password. -/
def basicCredentials (user : String) (password : Option String) : String :=
  "Basic " ++ Encoding.base64Text (user ++ ":" ++ password.getD "")

namespace Call

/-- Adds a field, after those of the same name. -/
def withField (call : Call) (name value : String) : Except SendFault Call :=
  match field? name value with
  | some field => .ok { call with headers := call.headers ++ [field] }
  | none => .error (.malformed none)

/-- Adds fields in order. -/
def withFields (call : Call) (fields : List (String × String)) : Except SendFault Call :=
  fields.foldlM (fun call (name, value) => call.withField name value) call

/-- A request without body. A user in the url moves into a field. -/
def create (method url : String) : Except SendFault Call :=
  match Url.ofText? url with
  | none => .error (.malformed none)
  | some url =>
      if (url.host.getD []).isEmpty then .error (.malformed (some url))
      else match userOf? url with
        | none => .ok ⟨method, url, [], ""⟩
        | some (user, password) =>
            Call.withField ⟨method, url.withoutUser, [], ""⟩ "authorization"
              (basicCredentials user password)

end Call
end Flowchart.Http
