/-!
# IdeaBoard — settings of the client

Where the server is, how long to wait for it, and how much to take from it.
-/

namespace IdeaBoard.Client

structure Settings where
  /-- The root of the site, which the search service lives under. -/
  baseUrl : String := "http://localhost:3000/"
  connectTimeoutMs : UInt64 := 5000
  requestTimeoutMs : UInt64 := 15000
  /-- The longest answer that is taken, in octets. -/
  maxBytes : UInt64 := 2097152
deriving DecidableEq, Repr, Inhabited

end IdeaBoard.Client
