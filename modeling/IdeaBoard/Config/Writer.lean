import IdeaBoard.Config
import IdeaBoard.Text.Quoted

/-!
# IdeaBoard — writing a configuration

All fields in their order, each on a line of its own, in a form that reading takes back to the
same configuration.
-/

namespace IdeaBoard.Config

open IdeaBoard.Text

/-- A quoted text in which both quote marks take a backslash. -/
def quotedText (s : String) : List Char :=
  '"' :: s.toList.flatMap (escapeChar ['"', '\'']) ++ ['"']

def fieldTexts (c : Config) : List (List Char × List Char) :=
  [("base_url".toList, quotedText c.baseUrl),
   ("debounce_ms".toList, Nat.toDigits 10 c.debounceMs.toNat),
   ("page_size".toList, Nat.toDigits 10 c.pageSize.toNat),
   ("page_step".toList, Nat.toDigits 10 c.pageStep.toNat),
   ("connect_timeout_ms".toList, Nat.toDigits 10 c.connectTimeoutMs.toNat),
   ("request_timeout_ms".toList, Nat.toDigits 10 c.requestTimeoutMs.toNat),
   ("max_response_bytes".toList, Nat.toDigits 10 c.maxResponseBytes.toNat),
   ("log_destination".toList, c.logDestination.name.toList)]

def fieldLine (field : List Char × List Char) : List Char :=
  List.replicate 4 ' ' ++ field.1 ++ ':' :: ' ' :: field.2 ++ [',', '\n']

def text (c : Config) : String :=
  String.ofList ('(' :: '\n' :: c.fieldTexts.flatMap fieldLine ++ [')'])

end IdeaBoard.Config
