import MailTemplates.Remote.Store
import MailTemplates.Remote.Version
/-!
# The client of the mail service

The service is reached under a base URL with a key. A template is fetched and published under its
id, and a mail is sent with one request. The client keeps no state: what it does to the service are
the requests it sends.
-/

namespace MailTemplates.Remote

/-- A mail with a page as its body. -/
structure Mail where
  sender : String
  recipients : List String
  subject : String
  page : String
deriving DecidableEq, Repr

/-- A client: where the service is, and the key for it. -/
structure Client where
  base : Url
  key : String
deriving DecidableEq, Repr

namespace Client

/-- Where the service is if nothing else is said. -/
def defaultUrl : String := "https://api.sendgrid.com/v3/"

/-- How the client names itself. -/
def agent : String := "mailbuild/0.3.0"

/-- The client for a base URL, which is read with a slash at its end. -/
def ofUrl (key url : String) : Except Failure Client :=
  let url := if url.toList.getLast? == some '/' then url else url ++ "/"
  match Url.parse url with
  | .ok base => .ok ⟨base, key⟩
  | .error problem => .error (.config (.badApiUrl url problem))

/-- The URL of a resource of the service. -/
def endpoint (client : Client) (path : String) : Except Failure Url :=
  match client.base.resolvePath path with
  | .ok url => .ok url
  | .error problem => .error (.config (.badApiPath path problem))

/-- The path of a template. -/
def templatePath (id : String) : String := "templates/" ++ id

/-- The path of the versions of a template. -/
def versionsPath (id : String) : String := "templates/" ++ id ++ "/versions"

/-- The request for a resource. -/
def get (client : Client) (url : Url) : Request where
  method := "GET"
  url := url
  authorization := "Bearer " ++ client.key
  userAgent := agent
  contentType := none
  body := ""

/-- The request that gives a resource a JSON text. -/
def post (client : Client) (url : Url) (body : String) : Request where
  method := "POST"
  url := url
  authorization := "Bearer " ++ client.key
  userAgent := agent
  contentType := some "application/json"
  body := body

/-- What is sent to publish a version. -/
def versionBody (t : Template) (content version : String) : String :=
  String.ofList ('{' :: Json.membersText [
    ("template_id", .string t.id), ("active", .bool true), ("name", .string version),
    ("html_content", .string content), ("subject", .string (t.subject.getD ""))] ++ ['}'])

/-- What is sent to send a mail. -/
def mailBody (mail : Mail) : String :=
  let address (email : String) : Json := .object [("email", .string email)]
  Json.compact (.object [
    ("content", .array [.object [("type", .string "text/html"), ("value", .string mail.page)]]),
    ("from", address mail.sender),
    ("personalizations", .array (mail.recipients.map fun email =>
      .object [("to", .array [address email])])),
    ("subject", .string mail.subject)])

/-- Sends a request and gives the response unless it is a refusal, with the requests that were
sent. -/
def send (network : Network) (request : Request) (refused : HttpProblem → RemoteProblem) :
    Except Failure Response × List Request :=
  let sent := { request with url := request.url.fetched }
  match exchange network request with
  | (.error problem, wasSent) => (.error (.http problem), if wasSent then [sent] else [])
  | (.ok response, _) =>
    if response.isFault then
      (.error (.remote (refused (.refused sent.url response.status response.reason))), [sent])
    else (.ok response, [sent])

/-- Fetches the content of the active version of a template. -/
def fetch (client : Client) (network : Network) (t : Template) :
    Except Failure String × List Request :=
  match client.endpoint (templatePath t.id) with
  | .error failure => (.error failure, [])
  | .ok url =>
    match send network (client.get url) (.fetching t.id) with
    | (.error failure, sent) => (.error failure, sent)
    | (.ok response, sent) =>
      match Version.parseList response.body with
      | .ok versions => (.ok (Version.activeContent versions), sent)
      | .error _ => (.error (.http (.undecodable url.fetched)), sent)

/-- Publishes a version of a template. -/
def publish (client : Client) (network : Network) (t : Template) (content version : String) :
    Except Failure Unit × List Request :=
  match client.endpoint (versionsPath t.id) with
  | .error failure => (.error failure, [])
  | .ok url =>
    let (r, sent) := send network (client.post url (versionBody t content version))
      (.publishing t.id)
    (r.map fun _ => (), sent)

/-- Sends a mail. -/
def sendMail (client : Client) (network : Network) (mail : Mail) :
    Except Failure Unit × List Request :=
  match client.endpoint "mail/send" with
  | .error failure => (.error failure, [])
  | .ok url =>
    let (r, sent) := send network (client.post url (mailBody mail)) .sending
    (r.map fun _ => (), sent)

/-- The service as a store; its state are the requests that were sent. -/
def store (client : Client) (network : Network) : Store (List Request) where
  fetch t sent :=
    let (r, more) := client.fetch network t
    (sent ++ more, uncrashed r)
  publish t content version sent :=
    let (r, more) := client.publish network t content version
    (sent ++ more, uncrashed r)

end Client

end MailTemplates.Remote
