import IdeaBoard.Url.Parser

/-!
# IdeaBoard — from one URL to another

A URL can be given another path, which is read as it would be in the text of the URL. And a relative
path leads from one URL to another: it goes on where the last segment of the URL's own path begins.
-/

namespace IdeaBoard.Url

open IdeaBoard.Text

/-- Segments as the path after a scheme. Empty segments in front mean nothing for a file. -/
def pathOf (scheme : List Char) (segments : List (List Char)) : Path :=
  if isFileScheme scheme then (filePath (.other []) segments).2 else .segments segments

/-- The URL with the path that a text stands for, in which `?` and `#` are characters like any other. A
path that is no list of segments does not become one: a slash in front is encoded. -/
def withPath (u : Url) (cs : List Char) : Url :=
  match u.path with
  | .whole _ =>
    let text :=
      match cs with
      | '/' :: rest => "%2F".toList ++ withoutBreaks rest
      | _ => withoutBreaks cs
    { u with path := .whole (percentEncode isControl text) }
  | .segments _ =>
    let segments :=
      segmentsAfterHost (isSpecialScheme u.scheme) (isFileScheme u.scheme) (withoutBreaks cs)
    { u with path := pathOf u.scheme segments }

/-- Is the text a path to be followed from wherever a URL leads? It has no scheme, and neither a slash, a
mark nor a drive in front. -/
def isRelativePath (cs : List Char) : Bool :=
  cleaned cs = cs && (cutScheme? cs).isNone && cs.head?.any (fun c => !endsAuthority true c) &&
    !isDrive [':', '|'] (cs.takeWhile fun c => !endsAuthority true c)

/-- A path to be followed from wherever a URL leads, with its query and its fragment. -/
structure RelativePath where
  text : List Char
  relative : isRelativePath text = true

def join (base : Url) (reference : RelativePath) : Except Fault Url :=
  match base.path with
  | .whole _ => .error .noBase
  | .segments ss =>
    let file := isFileScheme base.scheme
    let steps := segmentsOf (isSpecialScheme base.scheme)
      (reference.text.takeWhile fun c => !endsPath c)
    let path := pathOf base.scheme (followAll file (shortened file ss) steps)
    .ok (withTail { base with path } (reference.text.dropWhile fun c => !endsPath c))

end IdeaBoard.Url
