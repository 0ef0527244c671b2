import IdeaBoard.Text.DecimalDigit

/-!
# IdeaBoard — path patterns

A pattern describes paths item by item: `:number` stands for one or more decimal digits, `*` for
an optional slash and any text without a line break, every other character for itself. A path
belongs to a pattern when it splits into consecutive pieces, one for each item.

`Pattern.Describes` says so; `Pattern.accepts` decides it, from the last item to the first, by
working out which ends of the path the remaining items describe.
-/

namespace IdeaBoard

inductive Pattern.Item where
  | char (c : Char)
  | number
  | rest
deriving DecidableEq, Repr

/-- A pattern, read into its items. -/
structure Pattern where
  items : List Pattern.Item
deriving DecidableEq, Repr

namespace Pattern

open IdeaBoard.Text

/-! ### Reading -/

def itemsOf : List Char → List Item
  | ':' :: 'n' :: 'u' :: 'm' :: 'b' :: 'e' :: 'r' :: cs => .number :: itemsOf cs
  | '*' :: cs => .rest :: itemsOf cs
  | c :: cs => .char c :: itemsOf cs
  | [] => []

def ofText (s : String) : Pattern := ⟨itemsOf s.toList⟩

/-! ### What a pattern describes -/

/-- The pieces of text that an item stands for. -/
inductive Piece : Item → List Char → Prop
  | char (c : Char) : Piece (.char c) [c]
  | number {ds : List Char} : ds ≠ [] → (∀ d ∈ ds, isDecimalDigit d) → Piece .number ds
  | rest {cs : List Char} : (∀ c ∈ cs, c ≠ '\n') → Piece .rest cs
  | slashRest {cs : List Char} : (∀ c ∈ cs, c ≠ '\n') → Piece .rest ('/' :: cs)

/-- The texts that split into consecutive pieces, one for each item. -/
inductive Splits : List Item → List Char → Prop
  | nil : Splits [] []
  | cons {item : Item} {items : List Item} {piece rest : List Char} :
      Piece item piece → Splits items rest → Splits (item :: items) (piece ++ rest)

def Describes (p : Pattern) (path : List Char) : Prop := Splits p.items path

/-! ### Deciding -/

/-- For each end of a text, longest first and the empty one last: is it described? -/
abbrev Ends := List Bool

/-- The longest end of `ends` is described. -/
def Ends.whole (ends : Ends) : Bool := ends.headD false

/-- Only the empty end is described by no items. -/
def emptyEnds : List Char → Ends
  | [] => [true]
  | _ :: cs => false :: emptyEnds cs

/-- Is the end that starts with `c` described by an item and the items after it? `here` and `next`
tell of the items after it, at this end and at the one after `c`; `again` tells of the item
itself, at the one after `c`. -/
def Item.atChar (item : Item) (c : Char) (here next again : Bool) : Bool :=
  match item with
  | .char d => c = d && next
  | .number => isDecimalDigit c && (next || again)
  | .rest => here || (c ≠ '\n' && again)

/-- The ends of a text that an item and the items after it describe, from those that the items
after it describe. -/
def Item.ends (item : Item) : List Char → Ends → Ends
  | [], after =>
    match item with
    | .rest => [after.whole]
    | _ => [false]
  | c :: cs, after =>
    let below := item.ends cs after.tail
    item.atChar c after.whole (Ends.whole after.tail) (Ends.whole below) :: below

def endsOf (path : List Char) : List Item → Ends
  | [] => emptyEnds path
  | item :: items => item.ends path (endsOf path items)

def accepts (p : Pattern) (path : List Char) : Bool := (endsOf path p.items).whole

/-! ### Size

A matcher is built for each pattern, within a bound on its memory. The weights are lower bounds of
what it takes, and not exact: a pattern above the bound is too large for any matcher, and a table
with one is turned away. Nothing else depends on them; which paths belong to a pattern does not. -/

/-- Octets that a matcher takes for an item, at the least: the digits of every script need a table
of their own. -/
def Item.weight : Item → Nat
  | .char c => 24 * c.utf8Size
  | .number => 5120
  | .rest => 400

/-- Octets that a matcher for the pattern takes, at the least. -/
def weight (p : Pattern) : Nat := p.items.foldl (fun n i => n + i.weight) 0

/-- Octets that a matcher may take. -/
def maxWeight : Nat := 10 * 1024 * 1024

/-- Is a matcher for the pattern small enough to be built? -/
def isBuildable (p : Pattern) : Bool := p.weight ≤ maxWeight

end Pattern

end IdeaBoard
