import IdeaBoard.Filter
import IdeaBoard.Form

/-!
# IdeaBoard — filters as query strings

A filter is written as the pairs `tags`, `query`, `view`, `limit`, in this order, without those
that hold their default; the tags are joined by plain commas. Reading takes the first pair of
each name, ignores all other names, and gives the default for a value that cannot be used.
-/

namespace IdeaBoard.Filter

open IdeaBoard.Text

inductive Field where
  | tags | query | view | limit
deriving DecidableEq, Repr

def Field.key : Field → List Char
  | .tags => "tags".toList
  | .query => "query".toList
  | .view => "view".toList
  | .limit => "limit".toList

def Field.ofKey? (name : List Char) : Option Field :=
  [Field.tags, .query, .view, .limit].find? fun field => field.key = name

/-! ### Writing -/

def component (s : String) : List Char := Form.encode s.toList

/-- The tags, each written on its own, joined by commas. -/
def joinedTags (tags : TagSet) : List Char := join [','] (tags.toList.map component)

def pairText (field : Field) (value : List Char) : List Char := field.key ++ '=' :: value

/-- The value that each field is written with, where it is written at all. -/
def written? (f : Filter) (default : UInt32) : Field → Option (List Char)
  | .tags => if f.tags.isEmpty then none else some (joinedTags f.tags)
  | .query => if f.query.isEmpty then none else some (component f.query)
  | .view => if f.view.isEmpty then none else some (component f.view)
  | .limit => (f.limit.filter (· ≠ default)).map fun n => (numeral n.toNat).toList

def writtenPairs (f : Filter) (default : UInt32) : List (List Char) :=
  [Field.tags, .query, .view, .limit].filterMap fun field =>
    (f.written? default field).map (pairText field)

/-- The query string of a filter for a reader who takes `default` as the limit when none is
given. -/
def encodeWith (f : Filter) (default : UInt32) : String :=
  String.ofList (join ['&'] (f.writtenPairs default))

/-- The query string of a filter for a reader who knows the page size of the site. -/
def encode (f : Filter) : String := f.encodeWith defaultLimit

/-! ### Reading -/

/-- The limit that a value stands for: a positive number that fits 32 bits, with white space
around it allowed. -/
def readLimit? (cs : List Char) : Option UInt32 :=
  ((readBelow? UInt32.size (trim cs)).filter (0 < ·)).map UInt32.ofNat

/-- The tags of a comma-joined value; empty pieces are no tags. -/
def readTags (cs : List Char) : TagSet :=
  TagSet.ofList (((pieces ',' cs).filter (· ≠ [])).map String.ofList)

/-- The filter with what a value says of one field in place of what was known of it. -/
def withValue (f : Filter) (value : List Char) : Field → Filter
  | .tags => { f with tags := readTags value }
  | .query => { f with query := String.ofList value }
  | .view => { f with view := String.ofList value }
  | .limit => { f with limit := readLimit? value }

/-- A filter while it is read: what the pairs so far say, and which fields they name. -/
structure Reading where
  filter : Filter := {}
  named : List Field := []
deriving DecidableEq

/-- The next pair is read. A field that was named before is closed, whatever its value was worth. -/
def Reading.take (r : Reading) (pair : List Char × List Char) : Reading :=
  match Field.ofKey? pair.1 with
  | none => r
  | some field =>
    if field ∈ r.named then r else ⟨r.filter.withValue pair.2 field, field :: r.named⟩

def ofPairs (ps : List (List Char × List Char)) : Filter := (ps.foldl Reading.take {}).filter

/-- A query string without the question mark in front of it. -/
def withoutMark : List Char → List Char
  | '?' :: cs => cs
  | cs => cs

/-- The filter that a query string stands for, with or without its leading question mark. -/
def decode (queryString : String) : Filter :=
  ofPairs (Form.pairs (withoutMark queryString.toList))

end IdeaBoard.Filter
