import IdeaBoard.Text.Numeral

/-!
# IdeaBoard — failed searches

What can go wrong between a request and its posts, and how it is worded.
-/

namespace IdeaBoard.Client

inductive Cause where
  /-- The root of the site is no URL to ask below. -/
  | invalidUrl
  /-- The server answered with a status that is no success. -/
  | httpStatus (code : Nat)
  | timeout
  /-- The answer has, or announces, more octets than are taken. -/
  | tooLarge (maxBytes : Nat) (actual : Option Nat)
  /-- The answer is no list of posts. -/
  | malformedBody
  | network
deriving DecidableEq, Repr, Inhabited

def Cause.text : Cause → String
  | .invalidUrl => "invalid url"
  | .httpStatus code => "http status " ++ Text.numeral code
  | .timeout => "timeout"
  | .tooLarge maxBytes actual =>
    "response too large (max " ++ Text.numeral maxBytes ++ ", actual " ++
      Text.maybeNumeral actual ++ ")"
  | .malformedBody => "malformed response body"
  | .network => "network error"

structure Failure where
  cause : Cause
  details : String
deriving DecidableEq, Repr, Inhabited

def Failure.text (f : Failure) : String := f.cause.text ++ ": " ++ f.details

end IdeaBoard.Client
