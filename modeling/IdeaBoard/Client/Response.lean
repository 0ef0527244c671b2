import IdeaBoard.Client.Failure
import IdeaBoard.Client.Status
import IdeaBoard.Post
import IdeaBoard.Text.Utf8

/-!
# IdeaBoard — accepting a response

A response arrives as a status, perhaps an announced length, and the pieces of its body. It is
accepted if the status is a success, neither the announced nor the real length is too large, and
the body is a JSON array; how the body is cut into pieces does not matter. The first check that
fails decides the failure.
-/

namespace IdeaBoard.Client

/-- What can happen on the way to the server and back. -/
inductive TransportFault where
  | timedOut (details : String)
  | broken (details : String)
deriving DecidableEq, Repr, Inhabited

def TransportFault.failure : TransportFault → Failure
  | .timedOut details => ⟨.timeout, details⟩
  | .broken details => ⟨.network, details⟩

structure Response where
  status : Nat := 200
  /-- The length that the response announces. -/
  declaredLength : Option Nat := none
  /-- The pieces of the body; nothing after a fault counts. -/
  body : List (Except TransportFault (List UInt8)) := []

def tooLarge (maxBytes actual : Nat) : Failure :=
  ⟨.tooLarge maxBytes (some actual), "response too large"⟩

/-- Takes the pieces of a body after what has been taken already. -/
def takeBody (maxBytes : Nat) (taken : List UInt8) :
    List (Except TransportFault (List UInt8)) → Except Failure (List UInt8)
  | [] => .ok taken
  | .error fault :: _ => .error fault.failure
  | .ok piece :: rest =>
    if maxBytes < taken.length + piece.length then
      .error (tooLarge maxBytes (taken.length + piece.length))
    else takeBody maxBytes (taken ++ piece) rest

/-- The posts of a body, or none where it is no JSON array. -/
def postsOf? (body : List UInt8) : Option (List Post) := do
  Post.listOf? (← Json.Value.parse? (← Text.Utf8.decode? body))

namespace Response

/-- Does the response announce more octets than are taken? -/
def announced? (r : Response) (maxBytes : Nat) : Option Nat :=
  r.declaredLength.filter fun n => maxBytes < n

/-- The posts of a response, or the failure that its first fault amounts to. `complaint` is what the
reader of JSON says of a body that is no list of posts. -/
def accept (r : Response) (maxBytes : Nat) (complaint : List UInt8 → String) :
    Except Failure (List Post) :=
  if !Status.isSuccess r.status then .error ⟨.httpStatus r.status, Status.text r.status⟩
  else match r.announced? maxBytes with
    | some n => .error (tooLarge maxBytes n)
    | none =>
      match takeBody maxBytes [] r.body with
      | .error e => .error e
      | .ok body =>
        match postsOf? body with
        | some posts => .ok posts
        | none => .error ⟨.malformedBody, complaint body⟩

end Response

end IdeaBoard.Client
