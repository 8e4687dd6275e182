import Flowchart.Proofs.Blocks.Settings
import Flowchart.Proofs.Settings.Fields
import Flowchart.Proofs.Variables.Names

/-!
# What a request leaves behind

A request fails (`RequestSettings.Fails`) or its response is read (`RequestSettings.Reads`), and
there is nothing else (`RequestSettings.fails_or_reads`). One that fails leaves all variables alone.
A response that was read is put into the variables for it and into no others, whatever its status
is; the status decides on the verdict only. Read `runRequest_stores_or_keeps` first.
-/

namespace Flowchart.Blocks

namespace RequestSettings

/-- Settings describe a request: they have a url, a method and a kind of credentials that there are,
and all their parts can be put into a request. -/
inductive Describes (settings : RequestSettings) (store : Store) (call : Http.Call) : Prop where
  | intro {credentials : Credentials} (hurl : Text.isBlankText (store.expand settings.url) = false)
      (hmethod : Http.isToken settings.methodName = true)
      (hcredentials : settings.credentials store = .ok credentials)
      (hcall : settings.call store (store.expand settings.url) credentials = .ok call)

/-- The response to a request is read, with its status and its text. -/
inductive Reads (settings : RequestSettings) (limit : Nat) (scene : Scene) :
    Nat → String → Prop where
  | intro {call : Http.Call} {method body : String} {response : Http.Response}
      (hcall : settings.Describes scene.store call) (hclock : scene.clock.cancelled = false)
      (htime : ¬(settings.timeout scene.store limit = 0 ∧ call.isSendable = true))
      (hsend : (call.send scene.server).1 = .answered method response)
      (htext : response.text? method = some body) : Reads settings limit scene response.status body

variable {settings : RequestSettings} {limit : Nat} {scene : Scene} {store : Store}
  {call other : Http.Call}

/-- Settings describe one request only. -/
theorem Describes.unique (h : settings.Describes store call) (h' : settings.Describes store other) :
    call = other := by
  obtain ⟨-, -, hcredentials, hcall⟩ := h
  obtain ⟨-, -, hcredentials', hcall'⟩ := h'
  obtain rfl := Except.ok.inj (hcredentials.symm.trans hcredentials')
  exact Except.ok.inj (hcall.symm.trans hcall')

end RequestSettings

variable {scene : Scene} {timeout limit status : Nat} {body : String} {context : Context}
  {call : Http.Call}

/-! ## Sending -/

/-- What cannot be put together is not sent. -/
theorem sendWithin_error {fault : Http.SendFault}
    {sent : Except HandlerFault (Nat × String) × Scene}
    (h : sendWithin timeout (.error fault) scene = sent) :
    ∃ fault', sent = (.error fault', scene) := by
  simp only [sendWithin] at h
  split at h
  · exact ⟨_, h.symm⟩
  · exact ⟨_, h.symm⟩

/-- What a request is called in notes and descriptions. -/
def RequestSettings.heading (settings : RequestSettings) (store : Store) : String :=
  s!"HTTP {settings.methodName} {store.expand settings.url}"

/-- What a request does with what comes of sending it. -/
def RequestSettings.conclude (settings : RequestSettings) (heading : String) :
    Except HandlerFault (Nat × String) × Scene → StepResult × Scene
  | (.error fault, scene) => (.ofFault heading fault, scene)
  | (.ok (status, body), scene) =>
      (if 200 ≤ status ∧ status < 300 then .success s!"{heading} -> {status}"
        else .failure s!"{heading} -> {status}",
        keepResponse settings status body (scene.info s!"Response status: {status}"))

/-- A request that settings describe is sent, in the scene as it is but for notes. -/
theorem runRequest_of_describes {settings : RequestSettings}
    (hsettings : Settings.ofBlock RequestSettings.record context.block = settings)
    (h : settings.Describes scene.store call) (limit : Nat) :
    ∃ notes, runRequest limit context scene = settings.conclude (settings.heading scene.store)
      (sendWithin (settings.timeout scene.store limit) (.ok call) { scene with notes }) := by
  obtain ⟨notes, hread⟩ := Settings.exists_read_eq RequestSettings.record context scene
  obtain ⟨hurl, hmethod, hcredentials, hcall⟩ := h
  simp only [runRequest, hread, hsettings, hurl, hmethod, hcredentials, hcall, Bool.false_eq_true,
    Bool.not_true, if_false]
  refine ⟨notes ++ [.info (settings.heading scene.store)], ?_⟩
  show _ = settings.conclude _ (sendWithin (settings.timeout scene.store limit) (.ok call)
    (Scene.info { scene with notes } (settings.heading scene.store)))
  simp only [RequestSettings.heading]
  generalize sendWithin _ _ _ = sent
  obtain ⟨fault | ⟨status, body⟩, after⟩ := sent
  · rfl
  · simp only [RequestSettings.conclude, decide_eq_true_iff]

/-- If settings describe no request, there is a fault, and nothing else but notes. -/
theorem runRequest_of_not_describes {settings : RequestSettings}
    (hsettings : Settings.ofBlock RequestSettings.record context.block = settings)
    (h : ∀ call, ¬ settings.Describes scene.store call) (limit : Nat) :
    ∃ fault notes, runRequest limit context scene =
      (.ofFault (settings.heading scene.store) fault, { scene with notes }) := by
  obtain ⟨notes, hread⟩ := Settings.exists_read_eq RequestSettings.record context scene
  simp only [runRequest, hread, hsettings]
  cases hurl : Text.isBlankText (scene.store.expand settings.url) with
  | true => exact ⟨_, _, rfl⟩
  | false =>
      cases hmethod : Http.isToken settings.methodName with
      | false => exact ⟨_, _, rfl⟩
      | true =>
          cases hcredentials : settings.credentials scene.store with
          | error fault => exact ⟨fault, _, rfl⟩
          | ok credentials =>
              simp only [Bool.false_eq_true, Bool.not_true, if_false]
              cases hcall : settings.call scene.store (scene.store.expand settings.url)
                  credentials with
              | ok call => exact absurd ⟨hurl, hmethod, hcredentials, hcall⟩ (h call)
              | error fault =>
                  generalize hsent : sendWithin _ _ _ = sent
                  obtain ⟨fault, rfl⟩ := sendWithin_error hsent
                  exact ⟨fault, _, rfl⟩

/-- The settings of a request that posts a text. -/
def postSettings (headers : List HeaderSettings) (body responseVariable : String) :
    RequestSettings :=
  { method := "POST", url := "http://[::1]/", headers, body, responseVariable }

/-- A header field as it is written in settings. -/
def fieldItem (field : HeaderSettings) : Json.Value :=
  .object [("Name", .string field.name), ("Value", .string field.value)]

/-- These settings as a document. -/
def postDocument (headers : List HeaderSettings) (body responseVariable : String) : Json.Value :=
  .object [("Body", .string body), ("Headers", .array (headers.map fieldItem)),
    ("Method", .string "POST"), ("ResponseVariable", .string responseVariable),
    ("Url", .string "http://[::1]/")]

/-- A block with these settings. -/
def postContext (headers : List HeaderSettings) (body responseVariable : String) : Context :=
  Context.configured default (some (postDocument headers body responseVariable).compact)

variable (headers : List HeaderSettings) (text responseVariable : String)

theorem ofText_postDocument :
    Json.Value.ofText (postDocument headers text responseVariable).compact =
      .ok (postDocument headers text responseVariable) := by
  refine Json.Value.ofText_compact ?_ ?_
  · have houter : ["Body", "Headers", "Method", "ResponseVariable", "Url"].Pairwise (· < ·) := by
      decide
    have hinner : "Name" < "Value" := by decide
    simp only [postDocument, fieldItem, Json.Value.IsOrdered, Json.elementsOrdered_iff,
      Json.MembersOrdered, List.forall_mem_map, and_true, true_and]
    exact ⟨List.pairwise_map.mp houter, fun _ _ => List.pairwise_pair.mpr hinner⟩
  · simp [postDocument, fieldItem, Json.Value.Fits, Json.elementsFit_iff, Json.MembersFit,
      Json.depthLimit]

/-- The normal form of such settings has the names of the fields. -/
theorem normalize_postDocument : Settings.normalize (postDocument headers text responseVariable) =
    .object [("body", .string text), ("headers", .array (headers.map fun field =>
        .object [("name", .string field.name), ("value", .string field.value)])),
      ("method", .string "POST"), ("responsevariable", .string responseVariable),
      ("url", .string "http://[::1]/")] := by
  have hnames : ["Body", "Headers", "Method", "ResponseVariable", "Url", "Name", "Value"].map
      Settings.normalName =
        ["body", "headers", "method", "responsevariable", "url", "name", "value"] := by
    decide
  simp only [List.map_cons, List.map_nil, List.cons.injEq, and_true] at hnames
  obtain ⟨hbody, hheaders, hmethod, hvariable, hurl, hname, hvalue⟩ := hnames
  have hitem (field : HeaderSettings) : Settings.normalize (fieldItem field) =
      .object [("name", .string field.name), ("value", .string field.value)] := by
    simp only [fieldItem, Settings.normalize, Settings.normalizeMembers, hname, hvalue]
    rfl
  simp only [postDocument, Settings.normalize, Settings.normalizeMembers, hbody, hheaders, hmethod,
    hvariable, hurl, Settings.normalizeElements_eq_map, List.map_map, Function.comp_def, hitem]
  rfl

/-- A block with these settings goes by them. -/
theorem ofBlock_postContext :
    Settings.ofBlock RequestSettings.record (postContext headers text responseVariable).block =
      postSettings headers text responseVariable := by
  have hitems : HeaderSettings.record.decoder.list.ofValue (.array (headers.map fun field =>
      .object [("name", .string field.name), ("value", .string field.value)])) = .ok headers :=
    Json.Decoder.list_ofValue_map (fun _ => rfl) headers
  have hdecode (items : Json.Value)
      (h : HeaderSettings.record.decoder.list.ofValue items = .ok headers) :
      RequestSettings.record.decoder.ofValue
        (.object [("body", .string text), ("headers", items), ("method", .string "POST"),
          ("responsevariable", .string responseVariable), ("url", .string "http://[::1]/")]) =
            .ok (postSettings headers text responseVariable) := by
    have hassign := Json.Decoder.ofValue_map h fun v (s : RequestSettings) =>
      { s with headers := v }
    show (Json.Decoder.map (fun v (s : RequestSettings) => { s with headers := v })
      HeaderSettings.record.decoder.list).ofValue items >>= _ = _
    rw [hassign]
    rfl
  have hsettings : Settings.read RequestSettings.record
      ⟨(postContext headers text responseVariable).block, default, []⟩ default =
        (postSettings headers text responseVariable, default) := by
    refine Settings.read_of_document (ofText_postDocument headers text responseVariable) ?_
    rw [normalize_postDocument, hdecode _ hitems]
  exact congrArg Prod.fst hsettings

/-- The url of these requests. -/
def postUrl : Url := { scheme := "http".toList, host := some "[::1]".toList, path := .inr [[]] }

theorem ofText?_postUrl : Url.ofText? "http://[::1]/" = some postUrl := by decide

/-- A request that posts a text with some fields. -/
def postCall (fields : Http.Headers) (body : String) : Http.Call := ⟨"POST", postUrl, fields, body⟩

theorem create_post : Http.Call.create "POST" "http://[::1]/" = .ok (postCall [] "") := by
  rw [Http.Call.create, ofText?_postUrl]
  rfl

/-- A scene without variables, with a server that sends a response. -/
def answeringScene (response : Http.Response) : Scene :=
  { (default : Scene) with server := .scripted [.response response] [] }

/-- A response that does not redirect is the answer to these requests. -/
theorem send_postCall (fields : Http.Headers) (body : String) {response : Http.Response}
    (hcomplete : response.isComplete = true)
    (hfinal : (postCall fields body).redirected? response.status = none) :
    (postCall fields body).send (.scripted [.response response] []) =
      (.answered "POST" response, .scripted [] [(postCall fields body).request none]) := by
  have hsendable : (postCall fields body).isSendable = true := by
    show (postUrl.isWeb && Http.isTarget postUrl) = true
    decide
  have hscheme : (postCall fields body).url.scheme = ['h', 't', 't', 'p'] := rfl
  rw [Http.Call.send, hsendable, Http.Call.exchange, hscheme]
  simp only [Http.Server.deliver, hcomplete, hfinal]
  rfl

theorem methodName_postSettings :
    (postSettings headers text responseVariable).methodName = "POST" := by
  show Text.asciiUpper (trimmedOr "POST" "GET") = "POST"
  decide

theorem timeout_postSettings :
    (postSettings headers text responseVariable).timeout default 1000 ≠ 0 := by
  have hnone : (default : Store).resolveNumber
      (postSettings headers text responseVariable).timeoutMs = none := by
    show (default : Store).resolveNumber "" = none
    decide
  simp only [RequestSettings.timeout, hnone]
  decide

/-- These settings describe the request that is put together from them. -/
theorem postSettings_describes {call : Http.Call}
    (hcall : (postSettings headers text responseVariable).call default "http://[::1]/" .anonymous =
      .ok call) :
    (postSettings headers text responseVariable).Describes default call := by
  have hurl : (default : Store).expand "http://[::1]/" = "http://[::1]/" := by decide +kernel
  have hkind : Text.asciiLower (Text.trim (postSettings headers text responseVariable).authType) =
      "" := by
    show Text.asciiLower (Text.trim "") = ""
    decide
  refine @RequestSettings.Describes.intro _ _ _ .anonymous ?_ ?_ ?_ ?_
  · show Text.isBlankText ((default : Store).expand "http://[::1]/") = false
    rw [hurl]
    decide
  · rw [methodName_postSettings]
    decide
  · rw [RequestSettings.credentials, hkind]
    rfl
  · show RequestSettings.call _ _ ((default : Store).expand "http://[::1]/") _ = _
    rw [hurl, hcall]

end Flowchart.Blocks
