import Flowchart.Encoding.Basic
import Flowchart.Http.Call
import Flowchart.Text.Blank
import Flowchart.Url.Reference

/-!
# Sending requests

Sends a request and follows redirections, of which there may be ten. A redirection may turn the
request into one for reading, without a body; what proves the sender is not sent on to another host.
-/

namespace Flowchart.Http

/-- What comes of sending a request. -/
inductive Exchange where
  /-- The last response, and the method of the request that it answers. -/
  | answered (method : String) (r : Response)
  | failed (fault : SendFault)
  | hanging

/-- The greatest number of redirections that are followed. -/
def redirectionLimit : Nat := 10

/-! ## Urls on the way -/

/-- Whether two urls lead to the same host and port. -/
def sameHost (a b : Url) : Bool :=
  a.host = b.host && a.effectivePort? = b.effectivePort?

/-- The first value of a field of a response, without blanks around it. -/
def Response.field? (r : Response) (name : String) : Option String :=
  (r.headers.lookup name).map Text.trim

/-- Where a response sends the request on to: a well-formed reference that can be a target. -/
def Response.location? (r : Response) (url : Url) : Option Url := do
  let text ← r.field? "location"
  let next ← url.join? text
  if Url.isReference text && isTarget next then some next.withoutFragment else none

/-! ## Redirections -/

/-- The fields that describe a body. -/
def bodyFields : List String :=
  ["content-type", "content-length", "content-encoding", "transfer-encoding"]

/-- The fields that prove who the sender is. -/
def privateFields : List String :=
  ["authorization", "cookie", "cookie2", "proxy-authorization", "www-authenticate"]

/-- A request for reading, without a body. -/
def Call.reading (call : Call) (method : String) : Call :=
  { call with method, body := "", headers := Headers.without call.headers bodyFields }

/-- The request that follows a response of a status, before its url is changed; `none` if the
status is no redirection. -/
def Call.redirected? (call : Call) (status : Nat) : Option Call :=
  if status = 301 ∨ status = 302 then
    some (if call.method = "POST" then call.reading "GET" else call)
  else if status = 303 then
    some (call.reading (if call.method = "HEAD" then "HEAD" else "GET"))
  else if status = 307 ∨ status = 308 then some call
  else none

/-- The request as it is sent; `previous` is the url that sent it on. -/
def Call.request (call : Call) (previous : Option Url) : Request :=
  let headers := match previous with
    | none => call.headers
    | some previous =>
        let kept := if sameHost call.url previous then call.headers
          else Headers.without call.headers privateFields
        if previous.scheme ≠ call.url.scheme ∧ call.url.scheme = ['h', 't', 't', 'p'] then kept
        else Headers.replace kept "referer" previous.withoutUser.withoutFragment.text
  ⟨call.method, call.url.withoutFragment.text, headers, call.body⟩

/-- Whether a response has a status that a response may have. -/
def Response.isComplete (r : Response) : Bool :=
  r.status = 101 || (200 ≤ r.status && r.status ≤ 999)

/-- Sends a request and follows redirections, at most as many as the last argument says. `first`
is the url of the first request. -/
def Call.exchange (first : Url) (previous : Option Url) (call : Call) (server : Server) :
    Nat → Exchange × Server
  | 0 => (.failed (.tooManyRedirections (previous.getD first)), server)
  | n + 1 =>
      if call.url.scheme ≠ ['h', 't', 't', 'p'] then (.failed (.undelivered first), server)
      else
        match server.deliver (call.request previous) with
        | (.failed, server) => (.failed (.undelivered first), server)
        | (.hanging, server) => (.hanging, server)
        | (.answered r, server) =>
            if !r.isComplete then (.failed (.undelivered first), server)
            else
              match call.redirected? r.status, r.location? call.url with
              | some next, some url =>
                  if n = 0 then
                    (.failed (.tooManyRedirections call.url.withoutFragment), server)
                  else if !url.isWeb then (.failed (.malformed (some url)), server)
                  else Call.exchange first (some call.url.withoutFragment)
                    { next with url } server n
              | _, _ => (.answered call.method r, server)

/-- Whether a request can be sent at all: its url is one of the web and can be its target. -/
def Call.isSendable (call : Call) : Bool := call.url.isWeb && isTarget call.url

/-- Sends a request. -/
def Call.send (call : Call) (server : Server) : Exchange × Server :=
  if !call.isSendable then (.failed (.malformed (some call.url)), server)
  else call.exchange call.url none server (redirectionLimit + 1)

/-! ## Responses -/

/-- The body of a response to a request with a method; `none` if the connection ends before all of
it has come. -/
def Response.body? (r : Response) (method : String) : Option (List UInt8) :=
  if method = "HEAD" ∨ r.status = 204 ∨ r.status = 304 ∨ r.status < 200 then some []
  else match r.announcedLength with
    | none => some r.body
    | some n => if r.body.length < n then none else some (r.body.take n)

/-- The encoding of the body of a response: the one that its media type tells, else Utf-8. -/
def Response.encoding (r : Response) : Encoding :=
  let label := do
    let mediaType ← r.field? "content-type"
    if mediaType.toList.all fun c => (0x20 ≤ c.toNat && c.toNat < 0x7F) || c = '\t' then
      charset? mediaType
    else none
  (label.bind Encoding.ofLabel?).getD .utf8

/-- The text of a response to a request with a method. -/
def Response.text? (r : Response) (method : String) : Option String :=
  (r.body? method).map (Encoding.decode r.encoding)

end Flowchart.Http
