import IdeaBoard.Proofs.Route.Router

/-!
# IdeaBoard — the routes of the site

The table of the site is tried from top to bottom, but no path is in the languages of two of its rows.
Every path is led by the one row that it belongs to, so that the rows could stand in any order.

* **`splits_chars_append`** — a pattern without placeholders describes itself alone
  (`language_of_plain`); the one with placeholders describes the paths of ideas (`language_idea`).
* **`Unambiguous`** — no path is in the languages of two rows. Then a path is led by the row that has it
  (`Unambiguous.leading?_eq_some_iff`), in every order of the rows (`Unambiguous.resolve_perm`).
* **`unambiguous_table`** — the table of the site is so.
* **`site_exact`** — where every path leads, and that the order of the rows does not matter.
-/

namespace IdeaBoard

open IdeaBoard.Pattern (Language Splits Item itemsOf)

namespace Pattern

/-! ## Patterns with and without placeholders -/

/-- Without placeholders every character stands for itself. -/
theorem itemsOf_of_plain {text : List Char} (plain : ∀ c ∈ text, c ≠ ':' ∧ c ≠ '*') :
    itemsOf text = text.map Item.char := by
  induction text with
  | nil => rfl
  | cons c text ih =>
    obtain ⟨hcolon, hstar⟩ := plain c List.mem_cons_self
    have hnumber : ¬numberText <+: c :: text := by
      rintro ⟨rest, hrest⟩
      exact hcolon (List.cons.inj hrest).1.symm
    rw [itemsOf_itself hnumber hstar, ih fun d hd => plain d (List.mem_cons_of_mem c hd), List.map_cons]

/-- Characters in front take themselves, and leave the rest to the other items. -/
theorem splits_chars_append {pre path : List Char} {items : List Item} :
    Splits (pre.map Item.char ++ items) path ↔ ∃ rest, path = pre ++ rest ∧ Splits items rest := by
  induction pre generalizing path with
  | nil => simp
  | cons c pre ih =>
    rw [List.map_cons, List.cons_append]
    constructor
    · intro h
      cases path with
      | nil => exact absurd (splits_nil_text.mp h).1 (by simp)
      | cons d path =>
        obtain ⟨rfl, hrest⟩ := splits_char_cons.mp h
        obtain ⟨rest, rfl, hitems⟩ := ih.mp hrest
        exact ⟨rest, rfl, hitems⟩
    · rintro ⟨rest, rfl, hitems⟩
      exact splits_char_cons.mpr ⟨rfl, ih.mpr ⟨rest, rfl, hitems⟩⟩

/-- **A pattern without placeholders has one path, its own text.** -/
theorem language_of_plain {text path : List Char} (plain : ∀ c ∈ text, c ≠ ':' ∧ c ≠ '*') :
    Language text path ↔ path = text := by
  have hitems : itemsOf text = text.map Item.char ++ [] := by
    rw [List.append_nil, itemsOf_of_plain plain]
  rw [language_iff_splits, hitems, splits_chars_append]
  constructor
  · rintro ⟨rest, rfl, hrest⟩
    rw [splits_nil_iff.mp hrest, List.append_nil]
  · rintro rfl
    exact ⟨[], (List.append_nil _).symm, .nil⟩

/-- The path of an idea: its number, in the digits of any script, and any text on the same line. -/
def IdeaPath (path : List Char) : Prop :=
  ∃ digits rest, path = "/ideas/".toList ++ digits ++ rest ∧ digits ≠ [] ∧
    (∀ d ∈ digits, Text.isDecimalDigit d) ∧ ∀ c ∈ rest, c ≠ '\n'

/-- A number and then anything, item by item. -/
theorem splits_number_rest {path : List Char} :
    Splits [.number, .rest] path ↔ ∃ digits rest, path = digits ++ rest ∧ digits ≠ [] ∧
      (∀ d ∈ digits, Text.isDecimalDigit d) ∧ ∀ c ∈ rest, c ≠ '\n' := by
  constructor
  · intro h
    obtain ⟨digits, tail, rfl, hdigits, htail⟩ := splits_cons_iff.mp h
    obtain ⟨rest, last, rfl, hrest, hlast⟩ := splits_cons_iff.mp htail
    obtain rfl := splits_nil_iff.mp hlast
    cases hdigits with
    | number some_digit all_digits =>
      exact ⟨digits, rest, by rw [List.append_nil], some_digit, all_digits,
        piece_rest_iff_one_line.mp hrest⟩
  · rintro ⟨digits, rest, rfl, some_digit, all_digits, one_line⟩
    have hlast : Splits [.rest] (rest ++ []) := .cons (.rest one_line) .nil
    rw [List.append_nil] at hlast
    exact .cons (.number some_digit all_digits) hlast

/-- **The pattern with placeholders has the paths of ideas.** -/
theorem language_idea {path : List Char} :
    Language "/ideas/:number*".toList path ↔ IdeaPath path := by
  have hitems : itemsOf "/ideas/:number*".toList =
      "/ideas/".toList.map Item.char ++ [.number, .rest] := by decide
  rw [language_iff_splits, hitems, splits_chars_append]
  constructor
  · rintro ⟨tail, rfl, htail⟩
    obtain ⟨digits, rest, rfl, hidea⟩ := splits_number_rest.mp htail
    exact ⟨digits, rest, (List.append_assoc _ _ _).symm, hidea⟩
  · rintro ⟨digits, rest, rfl, hidea⟩
    exact ⟨digits ++ rest, List.append_assoc _ _ _, splits_number_rest.mpr ⟨digits, rest, rfl, hidea⟩⟩

end Pattern

namespace Router

/-! ## Tables without ambiguity -/

/-- No path is in the languages of two rows. -/
def Unambiguous (table : List Route) : Prop :=
  ∀ path : List Char, ∀ r ∈ table, ∀ q ∈ table,
    Language r.pattern.toList path → Language q.pattern.toList path → r = q

variable {table other : List Route}

/-- **Where no two rows compete, a path is led by the row that it belongs to.** -/
theorem Unambiguous.leading?_eq_some_iff (h : Unambiguous table) {path : List Char} {r : Route} :
    leading? table path = some r ↔ r ∈ table ∧ Language r.pattern.toList path := by
  constructor
  · intro hleading
    obtain ⟨before, after, rfl, hlanguage, _⟩ := Router.leading?_eq_some_iff.mp hleading
    exact ⟨List.mem_append_right before List.mem_cons_self, hlanguage⟩
  · rintro ⟨hr, hlanguage⟩
    cases hleading : leading? table path with
    | none => exact absurd hlanguage (leading?_eq_none_iff.mp hleading r hr)
    | some q =>
      -- whichever row comes first, it is the one that has the path
      obtain ⟨before, after, rfl, hq, _⟩ := Router.leading?_eq_some_iff.mp hleading
      rw [h path q (List.mem_append_right before List.mem_cons_self) r hr hq hlanguage]

theorem Unambiguous.perm (h : Unambiguous table) (perm : other.Perm table) : Unambiguous other :=
  fun path r hr q hq => h path r (perm.mem_iff.mp hr) q (perm.mem_iff.mp hq)

/-- In any order of the rows the same one leads a path. -/
theorem Unambiguous.leading?_perm (h : Unambiguous table) (perm : other.Perm table)
    (path : List Char) : leading? other path = leading? table path := by
  refine Option.ext fun r => ?_
  rw [(h.perm perm).leading?_eq_some_iff, h.leading?_eq_some_iff, perm.mem_iff]

theorem Unambiguous.resolve_eq_ok_iff (h : Unambiguous table) {router : Router}
    (accepted : ofTable table = .ok router) {path : String} {d : Destination} :
    router.resolve path = .ok d ↔
      ∃ r ∈ table, r.destination = d ∧ Language r.pattern.toList (normalizePath path.toList) := by
  rw [Router.resolve_eq_ok_iff accepted]
  simp only [h.leading?_eq_some_iff]
  exact exists_congr fun r => by rw [and_assoc, and_comm (b := r.destination = d)]

/-- A table with different ids and patterns that are not too large makes a router. -/
theorem rowsOf_of_nodup {seen : List String} (fresh : ∀ r ∈ table, r.id ∉ seen)
    (nodup : (table.map Route.id).Nodup)
    (buildable : ∀ r ∈ table, (Pattern.ofText r.pattern).isBuildable = true) :
    rowsOf seen table = .ok (table.map rowOf) := by
  -- on the rows, with the ids seen before them
  induction table generalizing seen with
  | nil => rfl
  | cons r table ih =>
    obtain ⟨hr, htable⟩ := List.forall_mem_cons.mp fresh
    obtain ⟨hbuild, hbuildable⟩ := List.forall_mem_cons.mp buildable
    rw [List.map_cons, List.nodup_cons] at nodup
    have hfresh : ∀ q ∈ table, q.id ∉ r.id :: seen := by
      intro q hq hmem
      rcases List.mem_cons.mp hmem with hsame | hseen
      · exact nodup.1 (hsame ▸ List.mem_map_of_mem hq)
      · exact htable q hq hseen
    unfold rowsOf
    rw [if_neg hr, hbuild, ih hfresh nodup.2 hbuildable]
    rfl

/-- The router of a table with different ids and buildable patterns has its rows, in their order. -/
theorem ofTable_of_nodup (nodup : (table.map Route.id).Nodup)
    (buildable : ∀ r ∈ table, (Pattern.ofText r.pattern).isBuildable = true) :
    ofTable table = .ok ⟨table.map rowOf⟩ := by
  rw [ofTable, rowsOf_of_nodup (fun _ _ => List.not_mem_nil) nodup buildable]
  rfl

/-- **Where no two rows compete, the rows may stand in any order.** -/
theorem Unambiguous.resolve_perm (h : Unambiguous table) (perm : other.Perm table)
    {router router' : Router} (accepted : ofTable table = .ok router)
    (accepted' : ofTable other = .ok router') (path : String) :
    router'.resolve path = router.resolve path := by
  rw [resolve_eq accepted', resolve_eq accepted, h.leading?_perm perm]

/-! ## The table of the site -/

def ideaRow : Route := ⟨"show-idea", "/ideas/:number*", .showIdea, true⟩

/-- All other rows are without placeholders. -/
theorem plain_of_ne_ideaRow : ∀ r ∈ Route.table, r ≠ ideaRow →
    ∀ c ∈ r.pattern.toList, c ≠ ':' ∧ c ≠ '*' := by
  have hall : ∀ r ∈ Route.table, r ≠ ideaRow →
      r.pattern.toList.all (fun c => decide (c ≠ ':' ∧ c ≠ '*')) = true := by decide
  intro r hr hne c hc
  exact of_decide_eq_true (List.all_eq_true.mp (hall r hr hne) c hc)

/-- No literal pattern starts as the paths of ideas do, and no two are the same. -/
theorem table_apart : ∀ r ∈ Route.table, r ≠ ideaRow →
    ¬"/ideas/".toList <+: r.pattern.toList ∧
    ∀ q ∈ Route.table, r.pattern.toList = q.pattern.toList → r = q := by decide

/-- **No two rows of the site compete.** -/
theorem unambiguous_table : Unambiguous Route.table := by
  -- a path of an idea is no literal path
  have hidea : ∀ path : List Char, ∀ r ∈ Route.table, r ≠ ideaRow →
      Language ideaRow.pattern.toList path → ¬Language r.pattern.toList path := by
    intro path r hr hne hlanguage hliteral
    obtain ⟨digits, rest, hpath, _⟩ := Pattern.language_idea.mp hlanguage
    rw [(Pattern.language_of_plain (plain_of_ne_ideaRow r hr hne)).mp hliteral, List.append_assoc] at hpath
    exact (table_apart r hr hne).1 ⟨digits ++ rest, hpath.symm⟩
  intro path r hr q hq hrpath hqpath
  by_cases hr' : r = ideaRow
  · by_cases hq' : q = ideaRow
    · rw [hr', hq']
    · rw [hr'] at hrpath
      exact absurd hqpath (hidea path q hq hq' hrpath)
  · by_cases hq' : q = ideaRow
    · rw [hq'] at hqpath
      exact absurd hrpath (hidea path r hr hr' hqpath)
    · -- two literal patterns with one path are one pattern
      have hrtext := (Pattern.language_of_plain (plain_of_ne_ideaRow r hr hr')).mp hrpath
      have hqtext := (Pattern.language_of_plain (plain_of_ne_ideaRow q hq hq')).mp hqpath
      exact (table_apart r hr hr').2 q hq (hrtext.symm.trans hqtext)

theorem ofTable_site : ofTable Route.table = .ok site :=
  ofTable_of_nodup (by decide) (by decide)

/-- A row of the site gets the paths of its language. -/
theorem resolve_site_iff {r : Route} (hr : r ∈ Route.table) {path : String} :
    site.resolve path = .ok r.destination ↔
      Language r.pattern.toList (normalizePath path.toList) := by
  rw [unambiguous_table.resolve_eq_ok_iff ofTable_site]
  constructor
  · rintro ⟨q, hq, hsame, hlanguage⟩
    -- the id tells the row
    have hrow : ∀ q ∈ Route.table, ∀ r ∈ Route.table, q.destination = r.destination → q = r := by
      decide
    rwa [← hrow q hq r hr hsame]
  · intro hlanguage
    exact ⟨r, hr, rfl, hlanguage⟩

/-- A row without placeholders gets the one path that is its text. -/
theorem resolve_literal_iff {r : Route} (hr : r ∈ Route.table) (hne : r ≠ ideaRow) {path : String} :
    site.resolve path = .ok r.destination ↔ normalizePath path.toList = r.pattern.toList := by
  rw [resolve_site_iff hr, Pattern.language_of_plain (plain_of_ne_ideaRow r hr hne)]

/-- The row of ideas gets the paths of ideas. -/
theorem resolve_idea_iff {path : String} :
    site.resolve path = .ok ideaRow.destination ↔ Pattern.IdeaPath (normalizePath path.toList) := by
  rw [resolve_site_iff (by decide)]
  exact Pattern.language_idea

/-- **The site leads a path, less one slash at its end, to the page of an idea just when it is `/ideas/`,
some decimal digits and anything on the same line; to another page just when it is the pattern of that
page; and nowhere, with the path named as it was given, in all other cases. No path is in the languages
of two rows, so that every order of the rows makes a router that leads every path to the same place, and
every row has a path that it leads.** -/
theorem site_exact :
    ofTable Route.table = .ok site ∧
    (∀ path : String,
      let sought := normalizePath path.toList
      (site.resolve path = .ok ideaRow.destination ↔ Pattern.IdeaPath sought) ∧
      (∀ r ∈ Route.table, r ≠ ideaRow →
        (site.resolve path = .ok r.destination ↔ sought = r.pattern.toList)) ∧
      ∀ e, site.resolve path = .error e ↔ e = ⟨path⟩ ∧ ¬Pattern.IdeaPath sought ∧
        ∀ r ∈ Route.table, r ≠ ideaRow → sought ≠ r.pattern.toList) ∧
    (∀ sought : List Char, ∀ r ∈ Route.table, ∀ q ∈ Route.table,
      Language r.pattern.toList sought → Language q.pattern.toList sought → r = q) ∧
    (∀ other : List Route, other.Perm Route.table → ∃ router, ofTable other = .ok router ∧
      ∀ path : String, router.resolve path = site.resolve path) ∧
    ∀ r ∈ Route.table, ∃ path : String, site.resolve path = .ok r.destination := by
  refine ⟨ofTable_site, fun path => ⟨resolve_idea_iff, fun r hr hne => resolve_literal_iff hr hne, ?nowhere⟩,
    unambiguous_table, ?reordered, ?reached⟩
  case nowhere =>
    intro e
    rw [resolve_eq_error_iff ofTable_site]
    refine and_congr_right fun _ => ?_
    constructor
    · intro hnone
      refine ⟨fun hidea => hnone ideaRow (by decide) (Pattern.language_idea.mpr hidea), ?_⟩
      intro r hr hne hsought
      exact hnone r hr ((Pattern.language_of_plain (plain_of_ne_ideaRow r hr hne)).mpr hsought)
    · rintro ⟨hidea, hliteral⟩ r hr hlanguage
      -- the row of ideas, or a literal one
      by_cases hne : r = ideaRow
      · subst hne
        exact hidea (Pattern.language_idea.mp hlanguage)
      · exact hliteral r hr hne
          ((Pattern.language_of_plain (plain_of_ne_ideaRow r hr hne)).mp hlanguage)
  case reordered =>
    intro other perm
    have hnodup : (other.map Route.id).Nodup :=
      ((perm.map Route.id).nodup_iff).mpr (by decide)
    have hbuildable : ∀ r ∈ Route.table, (Pattern.ofText r.pattern).isBuildable = true := by decide
    have accepted := ofTable_of_nodup hnodup fun r hr => hbuildable r (perm.mem_iff.mp hr)
    exact ⟨_, accepted, unambiguous_table.resolve_perm perm ofTable_site accepted⟩
  case reached =>
    intro r hr
    by_cases hne : r = ideaRow
    · subst hne
      have hdigit : ∀ d ∈ ['1'], Text.isDecimalDigit d := List.forall_mem_singleton.mpr (by decide)
      exact ⟨"/ideas/1", resolve_idea_iff.mpr ⟨['1'], [], by decide, by decide, hdigit, by simp⟩⟩
    · -- no pattern of the table ends in a slash, so each is a path of its own row
      have hslash : ∀ r ∈ Route.table, normalizePath r.pattern.toList = r.pattern.toList := by
        decide
      exact ⟨r.pattern, (resolve_literal_iff hr hne).mpr (hslash r hr)⟩

/-- The rows from the last to the first; a number in Arabic digits and then a text without a slash; two
slashes at the end of a literal path, and a line break after a number. -/
theorem site_exact_reversed :
    Route.table.reverse.Perm Route.table ∧
    ∃ router, ofTable Route.table.reverse = .ok router ∧
      router.resolve "/ideas/\u0661\u0662x/" = .ok ideaRow.destination ∧
      router.resolve "/admin/" = .ok ⟨"admin-general", .generalSettings, true⟩ ∧
      router.resolve "/admin//" = .error ⟨"/admin//"⟩ ∧
      router.resolve "/ideas/1\n" = .error ⟨"/ideas/1\n"⟩ := by
  obtain ⟨_, hpaths, _, hreordered, _⟩ := site_exact
  have perm : Route.table.reverse.Perm Route.table := List.reverse_perm _
  obtain ⟨router, accepted, hsame⟩ := hreordered _ perm
  refine ⟨perm, router, accepted, ?idea, ?literal, ?slashes, ?lines⟩
  case idea =>
    rw [hsame]
    have hdigits : ∀ d ∈ ['\u0661', '\u0662'], Text.isDecimalDigit d :=
      List.forall_mem_cons.mpr ⟨by decide, List.forall_mem_singleton.mpr (by decide)⟩
    exact (hpaths _).1.mpr ⟨['\u0661', '\u0662'], ['x'], by decide, by decide, hdigits, by simp⟩
  case literal =>
    rw [hsame]
    let r : Route := ⟨"admin-general", "/admin", .generalSettings, true⟩
    exact ((hpaths "/admin/").2.1 r (by decide) (by decide)).mpr (by decide)
  case slashes =>
    rw [hsame]
    refine ((hpaths _).2.2 _).mpr ⟨rfl, ?_, by decide⟩
    rw [← Pattern.language_idea, ← Pattern.accepts_ofText_iff]
    decide
  case lines =>
    rw [hsame]
    refine ((hpaths _).2.2 _).mpr ⟨rfl, ?_, by decide⟩
    rw [← Pattern.language_idea, ← Pattern.accepts_ofText_iff]
    decide

end Router

end IdeaBoard
