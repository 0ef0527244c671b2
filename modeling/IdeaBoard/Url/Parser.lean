import IdeaBoard.Url

/-!
# IdeaBoard — reading URLs

A text is read from left to right: the scheme, which decides the rest; credentials, host and
port; the path, in which `.` and `..` are followed at once; query and fragment.
-/

namespace IdeaBoard.Url

open IdeaBoard.Text

/-! ### Scheme -/

/-- The text without tabs and line breaks, which mean nothing anywhere in a URL. -/
def withoutBreaks (cs : List Char) : List Char := cs.filter fun c => c ≠ '\t' ∧ c ≠ '\n' ∧ c ≠ '\r'

/-- The text without controls and spaces at its ends, and without tabs and line breaks. -/
def cleaned (cs : List Char) : List Char :=
  let outer (c : Char) : Bool := c.toNat ≤ 0x20
  withoutBreaks ((cs.dropWhile outer).reverse.dropWhile outer).reverse

def isSchemeChar (c : Char) : Bool := c.isAlphanum || c = '+' || c = '-' || c = '.'

/-- The scheme in lower case, and what follows the colon after it. -/
def cutScheme? (cs : List Char) : Option (List Char × List Char) :=
  match cs with
  | [] => none
  | c :: _ =>
    if !c.isAlpha then none
    else match cs.dropWhile isSchemeChar with
      | ':' :: rest => some ((cs.takeWhile isSchemeChar).map Char.toLower, rest)
      | _ => none

/-! ### Authority -/

def endsAuthority (special : Bool) (c : Char) : Bool :=
  c = '/' || c = '?' || c = '#' || (special && c = '\\')

def cutLastAt? (cs : List Char) : Option (List Char × List Char) :=
  (cutFirst? '@' cs.reverse).map fun r => (r.2.reverse, r.1.reverse)

/-- User name and password, and the rest of a text after the slashes of an authority. -/
def cutCredentials (special : Bool) (cs : List Char) :
    Except Fault ((List Char × List Char) × List Char) :=
  let authority := cs.takeWhile fun c => !endsAuthority special c
  let rest := cs.dropWhile fun c => !endsAuthority special c
  match cutLastAt? authority with
  | none => .ok (([], []), cs)
  | some ([], []) => if rest.isEmpty then .ok (([], []), rest) else .error .emptyHost
  | some (info, host) =>
    let parts := (cutFirst? ':' info).getD (info, [])
    .ok ((percentEncode inUserinfoSet parts.1, percentEncode inUserinfoSet parts.2), host ++ rest)

/-- The text of a host, and the rest; a colon in brackets does not end it. -/
def cutHost (special : Bool) : Bool → List Char → List Char × List Char
  | _, [] => ([], [])
  | bracket, c :: cs =>
    if (c = ':' && !bracket) || endsAuthority special c then ([], c :: cs)
    else
      let bracket := if c = '[' then true else if c = ']' then false else bracket
      let r := cutHost special bracket cs
      (c :: r.1, r.2)

/-- The port after its colon, less the one that the scheme has anyway, and the rest. -/
def cutPort (scheme : List Char) (cs : List Char) : Except Fault (Option Nat × List Char) :=
  let digits := cs.takeWhile Char.isDigit
  let rest := cs.dropWhile Char.isDigit
  let value := Nat.ofDigitChars 10 digits 0
  if 65535 < value then .error .invalidPort
  else if rest.head?.any fun c => !endsAuthority true c then .error .invalidPort
  else .ok (if digits.isEmpty || some value = defaultPort? scheme then none else some value, rest)

/-! ### Path -/

/-- Is the segment one that stands for no step? Its dot may be written in hexadecimal. -/
def isSingleDot (s : List Char) : Bool :=
  s.map Char.toLower ∈ [".".toList, "%2e".toList]

def isDoubleDot (s : List Char) : Bool :=
  s.map Char.toLower ∈ ["..".toList, ".%2e".toList, "%2e.".toList, "%2e%2e".toList]

/-- Is the segment the letter of a drive, followed by one of these marks? -/
def isDrive (marks : List Char) : List Char → Bool
  | [letter, mark] => letter.isAlpha && mark ∈ marks
  | _ => false

/-- The path without its last segment; the drive of a file stays. -/
def shortened (file : Bool) (path : List (List Char)) : List (List Char) :=
  match path with
  | [s] => if file && isDrive [':'] s then path else []
  | _ => path.dropLast

/-- The path after one more segment; `last` says that no further one follows. -/
def follow (file last : Bool) (path : List (List Char)) (segment : List Char) :
    List (List Char) :=
  -- a dot segment at the end leaves an empty one, and so a slash
  let ended := if last then [[]] else []
  if isDoubleDot segment then shortened file path ++ ended
  else if isSingleDot segment then path ++ ended
  else if file && path.isEmpty && isDrive [':', '|'] segment then
    [segment.take 1 ++ [':']]
  else path ++ [percentEncode inPathSet segment]

def followAll (file : Bool) (path : List (List Char)) : List (List Char) → List (List Char)
  | [] => path
  | [s] => follow file true path s
  | s :: ss => followAll file (follow file false path s) ss

def segmentsOf (special : Bool) (cs : List Char) : List (List Char) :=
  pieces '/' (if special then cs.map fun c => if c = '\\' then '/' else c else cs)

def endsPath (c : Char) : Bool := c = '?' || c = '#'

/-- The segments of a path that follows a host; after a special scheme there is at least one. -/
def segmentsAfterHost (special file : Bool) (cs : List Char) : List (List Char) :=
  match cs with
  | [] => if special then [[]] else []
  | c :: rest =>
    let text := if c = '/' || (special && c = '\\') then rest else cs
    followAll file [] (segmentsOf special text)

/-! ### Query and fragment -/

/-- The query and the fragment of a text that starts with a mark or is empty. -/
def queryAndFragment (special : Bool) (cs : List Char) :
    Option (List Char) × Option (List Char) :=
  let fragment (cs : List Char) : List Char := percentEncode inFragmentSet cs
  let query (cs : List Char) : List Char := percentEncode (inQuerySet special) cs
  match cs with
  | '?' :: rest =>
    match cutFirst? '#' rest with
    | some (q, f) => (some (query q), some (fragment f))
    | none => (some (query rest), none)
  | '#' :: rest => (none, some (fragment rest))
  | _ => (none, none)

def withTail (u : Url) (tail : List Char) : Url :=
  let r := queryAndFragment (isSpecialScheme u.scheme) tail
  { u with query := r.1, fragment := r.2 }

/-! ### The whole -/

def parseAuthority (scheme cs : List Char) : Except Fault Url := do
  let special := isSpecialScheme scheme
  let ((username, password), rest) ← cutCredentials special cs
  let (hostText, rest) := cutHost special false rest
  if special ∧ hostText.isEmpty then throw .emptyHost
  let host ← if special then Host.parseSpecial hostText else Host.parseOther hostText
  -- a port, or credentials, need a host
  if hostText.isEmpty ∧ rest.head? = some ':' then throw .emptyHost
  let (port, rest) ←
    match rest with
    | ':' :: digits => cutPort scheme digits
    | _ => pure (none, rest)
  if hostText.isEmpty ∧ !(username.isEmpty && password.isEmpty) then throw .emptyHost
  let path := Path.segments (segmentsAfterHost special false (rest.takeWhile fun c => !endsPath c))
  return withTail { scheme, username, password, host := some host, port, path }
    (rest.dropWhile fun c => !endsPath c)

/-- The host of a file, and the text of its path: a drive is no host, and the machine itself needs
no name. -/
def fileHost (body : List Char) : Except Fault (Host × List Char) :=
  let isSlash (c : Char) : Bool := c = '/' || c = '\\'
  match body with
  | a :: b :: rest =>
    if isSlash a && isSlash b then
      let name := rest.takeWhile fun c => !isSlash c
      if isDrive [':', '|'] name || name.isEmpty then .ok (.other [], rest)
      else
        match Host.parseSpecial name with
        | .ok (.domain d) =>
          .ok (if d = "localhost".toList then .other [] else .domain d, rest.drop name.length)
        | .ok h => .ok (h, rest.drop name.length)
        | .error e => .error e
    else .ok (.other [], body)
  | _ => .ok (.other [], body)

/-- The path of a file with its host: a path from a drive needs no host, and empty segments in
front mean nothing. -/
def filePath (host : Host) (segments : List (List Char)) : Host × Path :=
  let front := segments.dropWhile List.isEmpty
  (if segments.head?.any (isDrive [':']) then .other [] else host,
    .segments (if front.isEmpty then [[]] else front))

def parseFile (scheme cs : List Char) : Except Fault Url :=
  match fileHost (cs.takeWhile fun c => !endsPath c) with
  | .error e => .error e
  | .ok (host, text) =>
    let (host, path) := filePath host (segmentsAfterHost true true text)
    .ok (withTail { scheme, host := some host, path } (cs.dropWhile fun c => !endsPath c))

/-- Reads what follows a scheme with rules of its own. -/
def parseOther (scheme cs : List Char) : Except Fault Url :=
  match cs with
  | '/' :: '/' :: rest => parseAuthority scheme rest
  | '/' :: rest =>
    let path := followAll false [] (segmentsOf false (rest.takeWhile fun c => !endsPath c))
    .ok (withTail { scheme, path := .segments path } (rest.dropWhile fun c => !endsPath c))
  | _ =>
    let path := percentEncode isControl (cs.takeWhile fun c => !endsPath c)
    .ok (withTail { scheme, path := .whole path } (cs.dropWhile fun c => !endsPath c))

def parse (s : String) : Except Fault Url :=
  match cutScheme? (cleaned s.toList) with
  | none => .error .relativeWithoutBase
  | some (scheme, rest) =>
    if isFileScheme scheme then parseFile scheme rest
    -- however many slashes there are, an authority follows them
    else if isSpecialScheme scheme then
      parseAuthority scheme (rest.dropWhile fun c => c = '/' || c = '\\')
    else parseOther scheme rest

end IdeaBoard.Url
