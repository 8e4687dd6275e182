import Flowchart.Http.Client
import Mathlib.Data.List.Infix

/-!
# The fields of requests

Fields are only ever added to a request under construction, each after all that it has
(`Call.names_of_withFields`), so that a field which is given twice is there twice. What is sent has
these fields at first, and after redirections no more of any name, but for the field that tells
where a redirection came from (`Call.send_requests`).
-/

namespace Flowchart.Http

/-- The names of fields, in sending order. -/
def Headers.names (headers : Headers) : List String := headers.map Prod.fst

variable {headers : Headers} {name other value : String}

namespace Headers

theorem names_append (headers more : Headers) :
    names (headers ++ more) = names headers ++ names more := List.map_append

/-- Taking fields away adds none. -/
theorem count_names_without (headers : Headers) (taken : List String) (name : String) :
    (names (headers.without taken)).count name ≤ (names headers).count name :=
  (List.filter_sublist.map Prod.fst).count_le name

/-- A field that takes the place of others adds none of another name. -/
theorem count_names_replace (h : other ≠ name) :
    (names (headers.replace name value)).count other ≤ (names headers).count other := by
  have hnone : (names [(name, value)]).count other = 0 :=
    List.count_eq_zero.mpr (by simpa [names] using h)
  unfold replace
  split
  · dsimp only
    set before := headers.takeWhile fun field => decide (field.1 ≠ name) with hbefore
    have hsplit : headers = before ++ headers.drop before.length :=
      (List.prefix_iff_eq_append.mp (List.takeWhile_prefix _)).symm
    have hrest := count_names_without (headers.drop before.length) [name] other
    conv_rhs => rw [hsplit]
    rw [List.append_cons, names_append, names_append, names_append, List.count_append,
      List.count_append, List.count_append, hnone]
    omega
  · rw [names_append, List.count_append, hnone, Nat.add_zero]

end Headers

/-! ## Requests under construction -/

/-- Fields are sent with their names in lower case. -/
theorem field?_fst {field : String × String} (h : field? name value = some field) :
    field.1 = Text.asciiLower name := by
  unfold field? at h
  split at h
  · rw [← Option.some.inj h]
  · cases h

namespace Call

variable {call result : Call}

/-- A field is added after all others. -/
theorem names_of_withField (h : call.withField name value = .ok result) :
    Headers.names result.headers = Headers.names call.headers ++ [Text.asciiLower name] := by
  unfold withField at h
  split at h
  · next field hfield =>
      obtain rfl := Except.ok.inj h
      rw [Headers.names_append, ← field?_fst hfield]
      rfl
  · cases h

/-- Fields are added one after another. -/
theorem names_of_withFields {fields : List (String × String)}
    (h : call.withFields fields = .ok result) : Headers.names result.headers =
      Headers.names call.headers ++ fields.map fun field => Text.asciiLower field.1 := by
  unfold withFields at h
  induction fields generalizing call with
  | nil =>
      obtain rfl : call = result := Except.ok.inj h
      exact (List.append_nil _).symm
  | cons field fields ih =>
      obtain ⟨name, value⟩ := field
      rw [List.foldlM_cons] at h
      dsimp only at h
      cases hfield : call.withField name value with
      | error fault =>
          rw [hfield] at h
          cases h
      | ok next =>
          rw [hfield] at h
          rw [ih h, names_of_withField hfield, List.map_cons, List.append_assoc]
          rfl

/-- A request begins with no field but one for the user of its url. -/
theorem names_of_create {method url : String} (h : create method url = .ok call) :
    Headers.names call.headers =
      if ((Url.ofText? url).bind userOf?).isSome then ["authorization"] else [] := by
  unfold create at h
  cases hurl : Url.ofText? url with
  | none =>
      rw [hurl] at h
      cases h
  | some target =>
      rw [hurl] at h
      dsimp only at h
      split at h
      · cases h
      · rw [Option.bind_some]
        cases huser : userOf? target with
        | none =>
            rw [huser] at h
            rw [← Except.ok.inj h]
            rfl
        | some user =>
            rw [huser] at h
            rw [names_of_withField h]
            rfl

/-! ## Requests on the way -/

/-- A request that is sent for a call has no more fields of any name than the call, but for the one
that tells where a redirection came from. -/
def Bounds (call : Call) (r : Request) : Prop :=
  ∀ name ≠ "referer",
    (Headers.names r.headers).count name ≤ (Headers.names call.headers).count name

theorem bounds_request (call : Call) (previous : Option Url) :
    call.Bounds (call.request previous) := by
  intro name hname
  cases previous with
  | none => exact le_rfl
  | some previous =>
      have hkept : (Headers.names (if sameHost call.url previous then call.headers
          else call.headers.without privateFields)).count name ≤
            (Headers.names call.headers).count name := by
        split
        · exact le_rfl
        · exact Headers.count_names_without _ _ _
      simp only [request]
      split
      · exact hkept
      · exact (Headers.count_names_replace hname).trans hkept

/-- A redirection adds no fields. -/
theorem count_names_redirected {status : Nat} {next : Call}
    (h : call.redirected? status = some next) (name : String) :
    (Headers.names next.headers).count name ≤ (Headers.names call.headers).count name := by
  have hreading (method : String) :
      (Headers.names (call.reading method).headers).count name ≤
        (Headers.names call.headers).count name :=
    Headers.count_names_without _ _ _
  unfold redirected? at h
  split at h
  · obtain rfl := Option.some.inj h
    split
    · exact hreading _
    · exact le_rfl
  · split at h
    · obtain rfl := Option.some.inj h
      exact hreading _
    · split at h
      · obtain rfl := Option.some.inj h
        exact le_rfl
      · cases h

/-- A server keeps the request that it answers, and any other one or not. -/
theorem deliver_requests {request : Request} {server after : Server} {delivery : Delivery}
    (h : server.deliver request = (delivery, after)) :
    after.requests = server.requests ++ [request] ∨
      after.requests = server.requests ∧ ∀ r, delivery ≠ .answered r := by
  unfold Server.deliver at h
  split at h
  all_goals
    obtain ⟨rfl, rfl⟩ := Prod.mk.inj h
    simp [Server.requests]

/-- The first request that a server gets is the one at hand, and none has more fields. -/
theorem exchange_requests (first : Url) (previous : Option Url) (call : Call) (server : Server)
    (n : Nat) : ∃ sent, (call.exchange first previous server n).2.requests =
      server.requests ++ sent ∧ (∀ r ∈ sent.head?, r = call.request previous) ∧
        ∀ r ∈ sent, call.Bounds r := by
  -- The induction is on the redirections that may be followed; each one leads to another call.
  induction n generalizing previous call server with
  | zero => exact ⟨[], by simp [exchange]⟩
  | succ n ih =>
      rw [exchange]
      split
      · exact ⟨[], by simp⟩
      · cases hdeliver : server.deliver (call.request previous) with
        | mk delivery after =>
            have hends : ∃ sent, after.requests = server.requests ++ sent ∧
                (∀ r ∈ sent.head?, r = call.request previous) ∧ ∀ r ∈ sent, call.Bounds r := by
              rcases deliver_requests hdeliver with h | ⟨h, -⟩
              · exact ⟨[call.request previous], h, by simp, by simp [bounds_request]⟩
              · exact ⟨[], by simp [h]⟩
            cases delivery with
            | failed | hanging => exact hends
            | answered r =>
                dsimp only
                split
                · exact hends
                · split
                  · next next url hnext hlocation =>
                      split
                      · exact hends
                      · split
                        · exact hends
                        · obtain ⟨sent, hsent, -, hbounds⟩ :=
                            ih (some call.url.withoutFragment) { next with url } after
                          have hafter : after.requests =
                              server.requests ++ [call.request previous] :=
                            (deliver_requests hdeliver).resolve_right fun h => h.2 r rfl
                          refine ⟨call.request previous :: sent, ?_, by simp, ?_⟩
                          · rw [hsent, hafter, List.append_assoc, List.singleton_append]
                          · refine List.forall_mem_cons.mpr ⟨bounds_request call previous, ?_⟩
                            intro r hr name hname
                            have hredirected := count_names_redirected hnext name
                            exact (hbounds r hr name hname).trans hredirected
                  · exact hends

/-- The first request that is sent for a call has its fields, and none has more. -/
theorem send_requests (call : Call) (server : Server) :
    ∃ sent, (call.send server).2.requests = server.requests ++ sent ∧
      (∀ r ∈ sent.head?, r.headers = call.headers) ∧ ∀ r ∈ sent, call.Bounds r := by
  unfold send
  split
  · exact ⟨[], by simp⟩
  · obtain ⟨sent, hsent, hfirst, hbounds⟩ :=
      exchange_requests call.url none call server (redirectionLimit + 1)
    refine ⟨sent, hsent, fun r hr => ?_, hbounds⟩
    rw [hfirst r hr]
    rfl

end Call
end Flowchart.Http
