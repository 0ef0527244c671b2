import IdeaBoard.Url.Host

/-!
# IdeaBoard — URLs

A URL in its parts, and its text. Reading one is a matter of its own.
-/

namespace IdeaBoard

/-- The path of a URL: segments, each after a slash, or one text that is no such list. -/
inductive Url.Path where
  | segments (ss : List (List Char))
  | whole (cs : List Char)
deriving DecidableEq, Repr

/-- A URL in its parts, each as it is written. -/
structure Url where
  scheme : List Char
  username : List Char := []
  password : List Char := []
  /-- None where the URL has no place for a host at all. -/
  host : Option Url.Host := none
  port : Option Nat := none
  path : Url.Path
  query : Option (List Char) := none
  fragment : Option (List Char) := none
deriving DecidableEq, Repr

namespace Url

open IdeaBoard.Text

def Path.text : Path → List Char
  | .segments ss => ss.flatMap ('/' :: ·)
  | .whole cs => cs

def credentialsText (u : Url) : List Char :=
  if u.username.isEmpty && u.password.isEmpty then []
  else u.username ++ (if u.password.isEmpty then [] else ':' :: u.password) ++ ['@']

def portText (u : Url) : List Char :=
  match u.port with
  | some p => ':' :: Nat.toDigits 10 p
  | none => []

/-- The host with all that belongs to it. A path that could be taken for a host is kept apart by
a segment that means nothing. -/
def authorityText (u : Url) : List Char :=
  match u.host with
  | some h => '/' :: '/' :: u.credentialsText ++ h.text ++ u.portText
  | none =>
    match u.path with
    | .segments ([] :: _ :: _) => ['/', '.']
    | _ => []

def markedText (mark : Char) : Option (List Char) → List Char
  | some cs => mark :: cs
  | none => []

/-- What a server is asked for: path and query. -/
def target (u : Url) : List Char := u.path.text ++ markedText '?' u.query

def text (u : Url) : List Char :=
  u.scheme ++ ':' :: u.authorityText ++ u.target ++ markedText '#' u.fragment

/-- May other paths be joined to this URL? -/
def isBase (u : Url) : Bool :=
  match u.path with
  | .whole _ => false
  | .segments _ => true

def defaultPort? (scheme : List Char) : Option Nat :=
  if scheme = "http".toList ∨ scheme = "ws".toList then some 80
  else if scheme = "https".toList ∨ scheme = "wss".toList then some 443
  else if scheme = "ftp".toList then some 21
  else none

def isFileScheme (scheme : List Char) : Bool := scheme = "file".toList

def isSpecialScheme (scheme : List Char) : Bool :=
  (defaultPort? scheme).isSome || isFileScheme scheme

def withQuery (u : Url) (query : Option (List Char)) : Url :=
  { u with query := query.map (percentEncode (inQuerySet (isSpecialScheme u.scheme))) }

def withoutCredentials (u : Url) : Url := { u with username := [], password := [] }

end Url

end IdeaBoard
