import IdeaBoard.Client.Response
import IdeaBoard.Client.Settings
import IdeaBoard.Search.Request
import IdeaBoard.Url.Join

/-!
# IdeaBoard — the search service

The service lives at a fixed path below the root of the site, whether or not that root ends in a
slash. A request is the URL of the service with the filter as its query.
-/

namespace IdeaBoard

namespace Client

def servicePath : Url.RelativePath := ⟨"api/v1/posts".toList, by decide⟩

/-- The URL with a slash at the end of its path. Without one its last segment would give way to a
relative path. -/
def slashEnded (u : Url) : Url :=
  if u.path.text.getLast? = some '/' then u else u.withPath (u.path.text ++ ['/'])

def endpoint (root : String) : Except Failure Url :=
  match Url.parse root with
  | .error fault => .error ⟨.invalidUrl, fault.message⟩
  | .ok base =>
    if base.isBase then
      match (slashEnded base).join servicePath with
      | .ok service => .ok service
      | .error fault => .error ⟨.invalidUrl, fault.message⟩
    else .error ⟨.invalidUrl, root ++ " cannot be a base url"⟩

end Client

structure Client where
  service : Url
  maxBytes : UInt64
deriving DecidableEq, Repr

namespace Client

def ofSettings (s : Settings) : Except Failure Client :=
  match endpoint s.baseUrl with
  | .ok service => .ok ⟨service, s.maxBytes⟩
  | .error e => .error e

/-- What a program says that cannot start for want of a client. -/
def startFault (e : Failure) : String := "failed to build search client: " ++ e.text

/-- The URL of a request; an empty query leaves no trace. -/
def url (c : Client) (r : Search.Request) : Url :=
  let query := r.queryString.toList
  c.service.withQuery (if query.isEmpty then none else some query)

/-- The outcome of a request, given what came back for it. `complaint` is what the reader of JSON says
of a body that is no list of posts; without such a body it does not matter. -/
def outcome (c : Client) (answer : Except TransportFault Response)
    (complaint : List UInt8 → String := fun _ => "") : Except Failure (List Post) :=
  match answer with
  | .error fault => .error fault.failure
  | .ok response => response.accept c.maxBytes.toNat complaint

/-- What comes back for a request where nothing listens. Credentials are not shown. -/
def unreachable (c : Client) (r : Search.Request) : TransportFault :=
  .broken ("error sending request for url (" ++
    String.ofList (c.url r).withoutCredentials.text ++ ")")

end Client

end IdeaBoard
