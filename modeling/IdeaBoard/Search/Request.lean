import IdeaBoard.Filter.QueryString

/-!
# IdeaBoard — search requests

What the server is asked: the filter with its free text normalised, as a query string by the same
rules as the location of a page.
-/

namespace IdeaBoard.Search

structure Request where
  query : String := ""
  view : String := ""
  limit : Option UInt32 := none
  tags : TagSet := ∅
deriving DecidableEq, Inhabited

namespace Request

def ofFilter (f : Filter) : Request :=
  let n := f.normalized
  ⟨n.query, n.view, n.limit, n.tags⟩

/-- The filter that asks for the same. -/
def toFilter (r : Request) : Filter := ⟨r.query, r.view, r.tags, r.limit⟩

def queryString (r : Request) : String := r.toFilter.encode

end Request

end IdeaBoard.Search
