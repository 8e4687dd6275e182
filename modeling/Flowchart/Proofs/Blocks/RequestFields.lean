import Flowchart.Proofs.Blocks.Response
import Flowchart.Proofs.Http.Fields

/-!
# The fields that a request is sent with

The fields of a request come from four places, one after another: a user in its url, the fields that
the settings list, the credentials, and the body, which has a media type. None of these places knows
of the others (`RequestSettings.fieldNames`). So a field that may be there only once is sent once if
it comes from one place, and twice if the settings list what is also added for the credentials or
the body (`sends_single_fields_iff`, `post_sends_two_types`).
-/

namespace Flowchart.Blocks

open Http (Headers)

namespace RequestSettings

/-- The names of the fields that settings list. -/
def listedNames (settings : RequestSettings) : List String :=
  (settings.headers.filter fun field => !Text.isBlankText field.name).map fun field =>
    Text.asciiLower (Text.trim field.name)

/-- The names of the fields that credentials of each kind become. -/
def credentialNames (settings : RequestSettings) : List String :=
  match Text.asciiLower (Text.trim settings.authType) with
  | "basic" | "bearer" | "token" => ["authorization"]
  | "apikey" => [Text.asciiLower (trimmedOr settings.apiKeyHeader "X-API-Key")]
  | _ => []

/-- The names of the fields that describe the body, if there is one. -/
def bodyNames (settings : RequestSettings) : List String :=
  if settings.methodName = "GET" ∨ settings.methodName = "HEAD" ∨ settings.body.isEmpty then []
  else ["content-type"]

/-- The names of the fields that a user in the url becomes. -/
def userNames (settings : RequestSettings) (store : Store) : List String :=
  if ((Url.ofText? (store.expand settings.url)).bind Http.userOf?).isSome then ["authorization"]
  else []

/-- The names of all fields of a request, in sending order. -/
def fieldNames (settings : RequestSettings) (store : Store) : List String :=
  settings.userNames store ++ settings.listedNames ++ settings.credentialNames ++
    settings.bodyNames

variable {settings : RequestSettings} {store : Store} {call : Http.Call}

theorem names_of_credentials {credentials : Credentials}
    (h : settings.credentials store = .ok credentials) :
    (credentials.fields.map fun field => Text.asciiLower field.1) = settings.credentialNames := by
  have hname : Text.asciiLower "authorization" = "authorization" := by decide
  unfold RequestSettings.credentials at h
  unfold credentialNames
  split at h
  case h_7 => cases h
  all_goals
    cases h
    simp [Credentials.fields, *]

theorem names_of_listedFields (settings : RequestSettings) (store : Store) :
    ((settings.listedFields store).map fun field => Text.asciiLower field.1) =
      settings.listedNames := by
  rw [listedFields, listedNames, List.map_map]
  rfl

/-- A request has the fields from all four places. -/
theorem Describes.names (h : settings.Describes store call) :
    Headers.names call.headers = settings.fieldNames store := by
  obtain ⟨-, -, hcredentials, hcall⟩ := h
  unfold RequestSettings.call at hcall
  simp only [bind, Except.bind, pure, Except.pure] at hcall
  split at hcall
  · cases hcall
  · next created hcreate =>
      split at hcall
      · cases hcall
      · next listed hlisted =>
          have hnames : Headers.names listed.headers =
              settings.userNames store ++ settings.listedNames ++ settings.credentialNames := by
            rw [Http.Call.names_of_withFields hlisted, Http.Call.names_of_create hcreate,
              List.map_append, names_of_credentials hcredentials, names_of_listedFields,
              List.append_assoc]
            rfl
          unfold fieldNames bodyNames
          split at hcall
          · next hempty =>
              obtain rfl := Except.ok.inj hcall
              rw [hnames, if_pos hempty, List.append_nil]
          · next hbody =>
              split at hcall
              · cases hcall
              · next typed htyped =>
                  have htype : Text.asciiLower "content-type" = "content-type" := by decide
                  obtain rfl := Except.ok.inj hcall
                  rw [Http.Call.names_of_withField htyped, hnames, if_neg hbody, htype]

end RequestSettings

/-! ## What the server gets -/

variable {scene : Scene} {timeout limit : Nat} {context : Context} {call : Http.Call}

/-- A request is sent unless the run has been cancelled or there is no time for it. -/
theorem sendWithin_server (timeout : Nat) (call : Http.Call) (scene : Scene) :
    (sendWithin timeout (.ok call) scene).2.server =
      if scene.clock.cancelled = true ∨ timeout = 0 ∧ call.isSendable = true then scene.server
      else (call.send scene.server).2 := by
  cases hclock : scene.clock.cancelled with
  | true => simp [sendWithin, hclock]
  | false =>
      by_cases htime : timeout = 0 ∧ call.isSendable = true
      · simp [sendWithin, hclock, htime]
      · simp only [sendWithin, hclock, htime, Bool.false_eq_true, false_or, if_false]
        split
        · rfl
        · split <;> rfl
        · rfl

/-- What comes after sending has nothing to do with the server. -/
theorem conclude_server (settings : RequestSettings) (heading : String)
    (sent : Except HandlerFault (Nat × String) × Scene) :
    (settings.conclude heading sent).2.server = sent.2.server := by
  obtain ⟨fault | ⟨status, body⟩, after⟩ := sent
  · rfl
  · unfold RequestSettings.conclude keepResponse Scene.setNamed
    dsimp only
    split <;> rfl

/-- The first request that a block sends has the fields from all four places, and none has more. -/
theorem runRequest_requests (limit : Nat) (context : Context) (scene : Scene) :
    ∃ sent, (runRequest limit context scene).2.server.requests = scene.server.requests ++ sent ∧
      (∀ r ∈ sent.head?, Headers.names r.headers =
        (Settings.ofBlock RequestSettings.record context.block).fieldNames scene.store) ∧
      ∀ r ∈ sent, ∀ name ≠ "referer", (Headers.names r.headers).count name ≤
        ((Settings.ofBlock RequestSettings.record context.block).fieldNames scene.store).count
          name := by
  generalize hsettings : Settings.ofBlock RequestSettings.record context.block = settings
  by_cases hdescribes : ∃ call, settings.Describes scene.store call
  · obtain ⟨call, hcall⟩ := hdescribes
    obtain ⟨notes, hrun⟩ := runRequest_of_describes hsettings hcall limit
    rw [hrun, conclude_server, ← hcall.names, sendWithin_server]
    split
    · exact ⟨[], by simp⟩
    · obtain ⟨sent, hsent, hfirst, hbounds⟩ := call.send_requests scene.server
      exact ⟨sent, hsent, fun r hr => by rw [hfirst r hr], hbounds⟩
  · obtain ⟨fault, notes, hrun⟩ :=
      runRequest_of_not_describes hsettings (not_exists.mp hdescribes) limit
    exact ⟨[], by simp [hrun]⟩

/-- The fields that may be in a request only once. -/
def singleFields : List String := ["content-type", "authorization"]

/-- A request has the fields from all four places, and is sent with them. So if anything is sent,
all requests that are sent have each field once that may be there only once, exactly if no such
field comes from two places or is listed twice. -/
theorem sends_single_fields_iff (limit : Nat) (context : Context) (scene : Scene) :
    let settings := Settings.ofBlock RequestSettings.record context.block
    (∀ call, settings.Describes scene.store call →
      Headers.names call.headers = settings.fieldNames scene.store) ∧
    ∃ sent, (runRequest limit context scene).2.server.requests = scene.server.requests ++ sent ∧
      (∀ r ∈ sent.head?, Headers.names r.headers = settings.fieldNames scene.store) ∧
      (sent ≠ [] →
        ((∀ r ∈ sent, ∀ name ∈ singleFields, (Headers.names r.headers).count name ≤ 1) ↔
          ∀ name ∈ singleFields, (settings.fieldNames scene.store).count name ≤ 1)) := by
  obtain ⟨sent, hsent, hfirst, hbounds⟩ := runRequest_requests limit context scene
  refine ⟨fun call hcall => hcall.names, sent, hsent, hfirst, fun hne => ⟨?_, ?_⟩⟩
  · intro hall name hname
    obtain ⟨r, rest, rfl⟩ := List.exists_cons_of_ne_nil hne
    rw [← hfirst r rfl]
    exact hall r List.mem_cons_self name hname
  · intro honce r hr name hname
    have hother : name ≠ "referer" := by
      rintro rfl
      exact absurd hname (by decide)
    exact (hbounds r hr name hother).trans (honce name hname)

/-- A response without a text. -/
def emptyResponse : Http.Response := ⟨200, [], [], none⟩

/-- A text that is posted is all that the server gets. -/
theorem requests_of_post {headers : List HeaderSettings} {text : String} {fields : Headers}
    (hcall : (postSettings headers text "").call default "http://[::1]/" .anonymous =
      .ok (postCall fields text)) :
    (runRequest 1000 (postContext headers text "")
      (answeringScene emptyResponse)).2.server.requests =
        [⟨"POST", "http://[::1]/", fields, text⟩] := by
  have hdescribes : (postSettings headers text "").Describes (answeringScene emptyResponse).store
      (postCall fields text) := postSettings_describes headers text "" hcall
  obtain ⟨notes, hrun⟩ :=
    runRequest_of_describes (ofBlock_postContext headers text "") hdescribes 1000
  have hcomplete : emptyResponse.isComplete = true := by decide
  have hsend := send_postCall fields text hcomplete rfl
  have hurl : postUrl.withoutFragment.text = "http://[::1]/" := by decide
  rw [hrun, conclude_server, sendWithin_server]
  split
  · next hunsent =>
      rcases hunsent with hclock | hnow
      · cases hclock
      · exact absurd hnow.1 (timeout_postSettings headers text "")
  · show ((postCall fields text).send (.scripted [.response emptyResponse] [])).2.requests = _
    rw [hsend, ← hurl]
    rfl

/-- Fields with a listed type of media and without a body. -/
def typedFields : List HeaderSettings := [⟨"Content-Type", "text/csv"⟩]

theorem call_typedFields :
    (postSettings typedFields "" "").call default "http://[::1]/" .anonymous =
      .ok (postCall [("content-type", "text/csv")] "") := by
  rw [RequestSettings.call, methodName_postSettings, create_post]
  rfl

/-- A type of media that is listed is sent once if there is no body. -/
theorem post_sends_one_type :
    (∀ name ∈ singleFields, ((postSettings typedFields "" "").fieldNames
      (answeringScene emptyResponse).store).count name ≤ 1) ∧
    ∃ r, (runRequest 1000 (postContext typedFields "" "")
        (answeringScene emptyResponse)).2.server.requests = [r] ∧
      ∀ name ∈ singleFields, (Headers.names r.headers).count name ≤ 1 := by
  have hrequests := requests_of_post call_typedFields
  obtain ⟨hnames, sent, hsent, -, honce⟩ :=
    sends_single_fields_iff 1000 (postContext typedFields "" "") (answeringScene emptyResponse)
  rw [ofBlock_postContext] at hnames honce
  have hcounts : ∀ name ∈ singleFields, ((postSettings typedFields "" "").fieldNames
      (answeringScene emptyResponse).store).count name ≤ 1 := by
    rw [← hnames _ (postSettings_describes typedFields "" "" call_typedFields)]
    decide
  obtain rfl := hsent.symm.trans hrequests
  exact ⟨hcounts, _, hrequests,
    (honce (List.cons_ne_nil _ _)).mpr hcounts _ List.mem_cons_self⟩

/-- A type of media that is listed is sent beside the one that is taken from the body. -/
theorem post_sends_two_types :
    (runRequest 1000 (postContext typedFields "a,b" "")
        (answeringScene emptyResponse)).2.server.requests =
      [⟨"POST", "http://[::1]/", [("content-type", "text/csv"), ("content-type", "text/plain")],
        "a,b"⟩] := by
  refine requests_of_post ?_
  rw [RequestSettings.call, methodName_postSettings, create_post]
  rfl

end Flowchart.Blocks
