import Flowchart.Handler.Settings
import Flowchart.Http.Client
import Flowchart.Json.Document
import Flowchart.Limits

/-!
# HTTP request

Sends a request and puts the status and the text of the response into variables. A response with a
status from 200 to 299 is a success, any other one a failure; the variables are set in both cases.
The time for a request never exceeds a limit.
-/

namespace Flowchart.Blocks

open Json.Decoder

/-- The variable for the status of the last response. -/
def statusVariable : String := "http.status"

/-- The variable for the text of the last response. -/
def bodyVariable : String := "http.body"

/-- A header field as the settings give it. -/
structure HeaderSettings where
  name : String := ""
  value : String := ""
  deriving DecidableEq, Inhabited

/-- The fields of a header field in settings. -/
def HeaderSettings.record : Record HeaderSettings where
  title := "struct HeaderConfig"
  start := {}
  fields := [
    Settings.text "name" (fun v h => { h with name := v }) ["key"],
    Settings.text "value" fun v h => { h with value := v }]

/-- The settings of a request. -/
structure RequestSettings where
  method : String := ""
  url : String := ""
  body : String := ""
  contentType : String := ""
  headers : List HeaderSettings := []
  authType : String := ""
  username : String := ""
  password : String := ""
  token : String := ""
  apiKeyHeader : String := ""
  apiKey : String := ""
  timeoutMs : String := ""
  responseVariable : String := ""
  deriving DecidableEq, Inhabited

/-- The fields of the settings of a request. -/
def RequestSettings.record : Record RequestSettings where
  title := "struct HttpRequestConfig"
  start := {}
  fields := [
    Settings.text "method" fun v s => { s with method := v },
    Settings.text "url" fun v s => { s with url := v },
    Settings.text "body" fun v s => { s with body := v },
    Settings.text "contenttype" fun v s => { s with contentType := v },
    defaulted "headers" HeaderSettings.record.decoder.list fun v s => { s with headers := v },
    Settings.text "authtype" fun v s => { s with authType := v },
    Settings.text "username" fun v s => { s with username := v },
    Settings.text "password" fun v s => { s with password := v },
    Settings.text "token" (fun v s => { s with token := v }) ["bearertoken"],
    Settings.text "apikeyheader" fun v s => { s with apiKeyHeader := v },
    Settings.text "apikey" fun v s => { s with apiKey := v },
    Settings.text "timeoutms" fun v s => { s with timeoutMs := v },
    Settings.text "responsevariable" fun v s => { s with responseVariable := v }]

/-! ## The parts of a request -/

/-- How a request proves who sends it. -/
inductive Credentials where
  | anonymous
  | basic (user password : String)
  | bearer (token : String)
  | key (field value : String)
  deriving DecidableEq

/-- A trimmed text, or another one if nothing is left of it. -/
def trimmedOr (text otherwise : String) : String :=
  if Text.isBlankText text then otherwise else Text.trim text

namespace RequestSettings

/-- The method in upper case. -/
def methodName (settings : RequestSettings) : String :=
  Text.asciiUpper (trimmedOr settings.method "GET")

/-- The credentials that the settings describe; unknown kinds are faults. -/
def credentials (settings : RequestSettings) (store : Store) :
    Except HandlerFault Credentials :=
  match Text.asciiLower (Text.trim settings.authType) with
  | "" | "none" => .ok .anonymous
  | "basic" => .ok (.basic (store.expand settings.username) (store.expand settings.password))
  | "bearer" | "token" => .ok (.bearer (store.expand settings.token))
  | "apikey" =>
      .ok (.key (trimmedOr settings.apiKeyHeader "X-API-Key") (store.expand settings.apiKey))
  | other => .error (.configuration s!"unsupported auth type '{other}'")

/-- The header fields that the settings list, without those that have no name. -/
def listedFields (settings : RequestSettings) (store : Store) : List (String × String) :=
  (settings.headers.filter fun h => !Text.isBlankText h.name).map fun h =>
    (Text.trim h.name, store.expand h.value)

/-- The time allowed to the request in milliseconds, at most a limit. -/
def timeout (settings : RequestSettings) (store : Store) (limit : Nat) : Nat :=
  match store.resolveNumber settings.timeoutMs with
  | some n => if Binary64.less .zero n then min n.toWord limit else limit
  | none => limit

end RequestSettings

/-- The header field that credentials become. -/
def Credentials.fields : Credentials → List (String × String)
  | anonymous => []
  | basic user password => [("authorization", Http.basicCredentials user (some password))]
  | bearer token => [("authorization", "Bearer " ++ token)]
  | key field value => [(field, value)]

/-- Whether a text is a Json object or array. -/
def looksLikeJson (body : String) : Bool :=
  let text := Text.trimStart body
  match text.toList with
  | c :: _ =>
      (c = '\x7b' || c = '[') &&
        match Json.Value.ofText text with
        | .ok _ => true
        | .error _ => false
  | [] => false

/-- The media type of a body: the one that the settings name, else the one that it looks like. -/
def RequestSettings.mediaType (settings : RequestSettings) (body : String) : String :=
  trimmedOr settings.contentType
    (if looksLikeJson body then "application/json" else "text/plain")

/-- The request that settings describe. Requests for reading have no body. -/
def RequestSettings.call (settings : RequestSettings) (store : Store) (url : String)
    (credentials : Credentials) : Except Http.SendFault Http.Call := do
  let method := settings.methodName
  let call ← Http.Call.create method url
  let call ← call.withFields (settings.listedFields store ++ credentials.fields)
  if method = "GET" ∨ method = "HEAD" ∨ settings.body.isEmpty then return call
  let body := store.expand settings.body
  let call ← call.withField "content-type" (settings.mediaType body)
  return { call with body }

/-! ## Sending -/

/-- The status and the text of the response, as far as the time and the server allow. -/
def sendWithin (timeout : Nat) (call : Except Http.SendFault Http.Call) (scene : Scene) :
    Except HandlerFault (Nat × String) × Scene :=
  let failed := fun (fault : Http.SendFault) =>
    Except.error (HandlerFault.execution s!"HTTP request failed: {fault.message}")
  if scene.clock.cancelled then (.error .cancelled, scene)
  else match call with
    | .error fault => (failed fault, scene)
    | .ok call =>
        if timeout = 0 ∧ call.isSendable then (.error (.timeout timeout), scene)
        else
          let (exchange, server) := call.send scene.server
          let scene := { scene with server }
          match exchange with
          | .failed fault => (failed fault, scene)
          | .answered method response =>
              match response.text? method with
              | some text => (.ok (response.status, text), scene)
              | none =>
                  let reason := "Failed to read response: error decoding response body"
                  (.error (.execution reason), scene)
          | .hanging =>
              let (finished, clock) := scene.clock.wait timeout
              (.error (if finished then .timeout timeout else .cancelled), { scene with clock })

/-- Keeps a response in the variables. -/
def keepResponse (settings : RequestSettings) (status : Nat) (body : String) (scene : Scene) :
    Scene :=
  let scene := scene.set statusVariable (toString status)
  let scene := scene.set bodyVariable body
  scene.setNamed settings.responseVariable body

/-- Executes a request. -/
def runRequest (limit : Nat) (context : Context) (scene : Scene) : StepResult × Scene :=
  let (settings, scene) := Settings.read RequestSettings.record context scene
  let method := settings.methodName
  let url := scene.store.expand settings.url
  let heading := s!"HTTP {method} {url}"
  let refuse := fun (fault : HandlerFault) (scene : Scene) =>
    (StepResult.ofFault heading fault, scene)
  if Text.isBlankText url then refuse (.configuration "missing url") scene
  else if !Http.isToken method then
    refuse (.configuration s!"Unsupported method: {method}") scene
  else match settings.credentials scene.store with
    | .error fault => refuse fault scene
    | .ok credentials =>
        let call := settings.call scene.store url credentials
        let timeout := settings.timeout scene.store limit
        match sendWithin timeout call (scene.info heading) with
        | (.error fault, scene) => refuse fault scene
        | (.ok (status, body), scene) =>
            let scene := keepResponse settings status body
              (scene.info s!"Response status: {status}")
            let description := s!"{heading} -> {status}"
            let success := decide (200 ≤ status ∧ status < 300)
            (if success then .success description else .failure description, scene)

/-- The handler of requests with a limit of time. -/
def httpRequest (limits : Limits) : Handler :=
  .named "HttpRequest" ⟨"Make HTTP requests", "http"⟩ (runRequest limits.httpTimeoutMs)

end Flowchart.Blocks
