import IdeaBoard.Proofs.Client.Endpoint
import IdeaBoard.Proofs.Search.Reload

/-!
# IdeaBoard — what the server is asked

A list page is known to its reader by a location and to the server by a request. The location leaves out
a limit that is the page size of the page, the request one that is the page size of the site; both say
the same number of ideas.

* **`percentEncode_encodeWith`** — a URL leaves the query string of a filter alone: it has no octet of the
  set that is encoded.
* **`ofSettings_eq_ok`** — the URL of the service ends with its path, so that a query is all that a
  request adds to it (`url_eq`, `text_url`).
* **`decode_queryString`** — the filter that is read from a request.
* **`server_reads_page`** — what the server reads is what the page and its location say.
-/

namespace IdeaBoard

open IdeaBoard.Text IdeaBoard.Filter

namespace Url

/-! ## Text that stands for itself -/

/-- No character of a query string is one that a URL encodes in its query. -/
theorem inQuerySet_of_isQueryChar {c : Char} (h : isQueryChar c = true) (special : Bool) :
    c.toNat < 0x80 ∧ inQuerySet special (.ofNat c.toNat) = false := by
  have hascii : c.toNat < 0x80 := by
    simp only [isQueryChar, Bool.or_eq_true, decide_eq_true_eq] at h
    rcases h with ((hchar | rfl) | rfl) | rfl
    · exact isComponentChar_ascii hchar
    · decide
    · decide
    · decide
  -- both sets are tables over ASCII, so the rest is decided
  have hall : ∀ n < 0x80, isQueryChar (Char.ofNat n) = true →
      inQuerySet true (.ofNat n) = false ∧ inQuerySet false (.ofNat n) = false := by decide
  have hboth := hall c.toNat hascii (by rwa [Char.ofNat_toNat])
  refine ⟨hascii, ?_⟩
  cases special with
  | true => exact hboth.1
  | false => exact hboth.2

/-- The query string of a filter goes into a URL as it is. -/
theorem percentEncode_encodeWith (special : Bool) (f : Filter) (default : UInt32) :
    percentEncode (inQuerySet special) (f.encodeWith default).toList =
      (f.encodeWith default).toList := by
  refine percentEncode_of_unset fun c hc => inQuerySet_of_isQueryChar ?_ special
  cases hchar : isQueryChar c with
  | true => rfl
  | false => exact absurd hc (not_mem_encodeWith hchar f default)

/-- A URL that ends with its path is continued by a query. -/
theorem text_query {u : Url} (query : u.query = none) (fragment : u.fragment = none)
    (q : Option (List Char)) : ({ u with query := q } : Url).text = u.text ++ markedText '?' q := by
  simp [text, target, fragment, query, markedText, authorityText, credentialsText, portText]

end Url

namespace Client

/-! ## The URL of the service -/

/-- The URL of the service ends with its path. -/
theorem ofSettings_eq_ok {settings : Settings} {c : Client} (h : ofSettings settings = .ok c) :
    c.service.query = none ∧ c.service.fragment = none := by
  unfold ofSettings at h
  split at h
  · next service hendpoint =>
    obtain rfl := Except.ok.inj h
    obtain ⟨base, _, hjoin⟩ := endpoint_eq_ok hendpoint
    exact ends_of_join hjoin
  · exact absurd h nofun

/-! ## The URL of a request -/

/-- **A request adds its query string to the URL of the service as it is.** -/
theorem url_eq (c : Client) (r : Search.Request) :
    c.url r = { c.service with
      query := if r.queryString.isEmpty then none else some r.queryString.toList } := by
  have hplain : Url.percentEncode (Url.inQuerySet (Url.isSpecialScheme c.service.scheme))
      r.queryString.toList = r.queryString.toList := Url.percentEncode_encodeWith _ _ _
  have hnil : r.queryString.toList.isEmpty = r.queryString.isEmpty := by
    rw [Bool.eq_iff_iff, List.isEmpty_iff, String.toList_eq_nil_iff, String.isEmpty_iff]
  rw [url, Url.withQuery, hnil]
  cases r.queryString.isEmpty with
  | true => rfl
  | false => simp [hplain]

/-- The text of the URL of a request is that of the service, with the query string behind a mark. -/
theorem text_url {c : Client} (query : c.service.query = none) (fragment : c.service.fragment = none)
    (r : Search.Request) :
    (c.url r).text =
      c.service.text ++ if r.queryString.isEmpty then [] else '?' :: r.queryString.toList := by
  rw [url_eq, Url.text_query query fragment]
  cases r.queryString.isEmpty <;> rfl

end Client

namespace Search.State

/-! ## The filter of a request -/

variable {s : State}

/-- A page of some size can say its request: there is a limit in it only where one is needed. -/
theorem writable_request (h : s.filter.Writable s.settings.pageSize) (sized : 0 < s.settings.pageSize) :
    s.request.toFilter.Writable defaultLimit where
  tags := h.tags
  limit := by
    intro hzero
    have heffective : s.effectiveLimit = 0 := Option.some.inj (Option.ite_none_left_eq_some.mp hzero).2
    -- a limit of zero would come from a page size of zero
    have hsize := pageSize_eq_zero h.limit heffective
    rw [hsize] at sized
    exact absurd sized (by decide)

/-- A limit that is left out is read as the page size of the site. -/
theorem getD_request_limit (s : State) : s.request.limit.getD defaultLimit = s.effectiveLimit := by
  show (if s.effectiveLimit = defaultLimit then none else some s.effectiveLimit).getD _ = _
  split
  · next h => exact h.symm
  · rfl

/-- **The filter that the server reads.** -/
theorem decode_queryString (h : s.filter.Writable s.settings.pageSize)
    (sized : 0 < s.settings.pageSize) :
    decode s.request.queryString = s.request.toFilter.brief defaultLimit := by
  rw [Request.queryString, Filter.encode, decode_encodeWith,
    kept_of_writable (writable_request h sized)]

/-- **After every run in which no tag with a comma is chosen, a request adds to the URL of the service its
query string as it is, or nothing where that is empty. The server reads from it the normal query, the
view, the tags and the number of ideas that the page asks for, where it takes the page size of the site
for a limit that is left out; and the location says the same number to a reader who takes the page size
of the page.** -/
theorem server_reads_page {client : Client.Settings} {c : Client}
    (built : Client.ofSettings client = .ok c) (path queryString : String) (posts : List Post)
    {settings : Settings} (sized : 0 < settings.pageSize) {ms : List Message}
    (hms : ∀ m ∈ ms, m.CommaFree) :
    let s := ((mount path queryString posts settings).run ms).1
    let asked := s.request.queryString
    (c.url s.request =
        { c.service with query := if asked.isEmpty then none else some asked.toList } ∧
      (c.url s.request).text =
        c.service.text ++ if asked.isEmpty then [] else '?' :: asked.toList) ∧
    ((decode asked).query = normalText s.filter.query ∧ (decode asked).view = s.filter.view ∧
      (decode asked).tags = s.filter.tags ∧
      (decode asked).limit.getD defaultLimit = s.effectiveLimit) ∧
    ∃ shown, s.location = Location.withQuery path shown ∧
      ('?' ∉ path.toList → '#' ∉ path.toList → Location.split s.location = (path, shown)) ∧
      (decode shown).limit.getD settings.pageSize = s.effectiveLimit := by
  intro s asked
  -- the location can be read back, and by the same invariant so can the request
  have inv := reloadable_run path queryString posts settings hms
  have writable : s.filter.Writable s.settings.pageSize := inv.writable
  have hsettings : s.settings = settings := inv.settings_eq
  have hfilter : decode asked = s.request.toFilter.brief defaultLimit :=
    decode_queryString writable (by rwa [hsettings])
  obtain ⟨hquery, hfragment⟩ := Client.ofSettings_eq_ok built
  refine ⟨⟨c.url_eq s.request, Client.text_url hquery hfragment s.request⟩,
    ⟨?normal, ?view, ?tags, ?limit⟩, ?location⟩
  case normal =>
    rw [hfilter]
    rfl
  case view =>
    rw [hfilter]
    rfl
  case tags =>
    rw [hfilter]
    rfl
  case limit =>
    rw [hfilter, ← getD_request_limit s]
    exact getD_filter_ne _ _
  case location =>
    refine ⟨s.filter.normalized.encodeWith s.settings.pageSize, ?_, ?_, ?_⟩
    · show Location.ofFilterWith s.path _ _ = _
      rw [inv.path_eq]
      rfl
    · intro hmark hhash
      unfold location
      rw [inv.path_eq]
      exact Location.split_ofFilterWith hmark hhash _ _
    · rw [← hsettings, decode_encodeWith, kept_of_writable (writable_normalized writable)]
      exact getD_filter_ne _ _

/-- A site below a path of its own, where pages are smaller than the server takes them to be: the page
leaves out of its location the limit that the server has to be told. -/
theorem server_reads_page_small :
    let client : Client.Settings := { baseUrl := "http://127.0.0.1:3000/fider" }
    let settings : Settings := { pageSize := 20 }
    let ms : List Message := [.edit (.setQuery " Dark & "), .edit (.toggleTag "ui")]
    let s := ((mount "/" "tags=a%26b" [] settings).run ms).1
    s.location = "/?tags=a%26b,ui&query=dark+%26" ∧
    ∃ c, Client.ofSettings client = .ok c ∧
      (c.url s.request).text =
        "http://127.0.0.1:3000/fider/api/v1/posts?tags=a%26b,ui&query=dark+%26&limit=20".toList ∧
      (decode s.request.queryString).limit.getD defaultLimit = 20 := by
  intro client settings ms s
  have hfree : ∀ m ∈ ms, m.CommaFree := by
    intro m hm
    rcases List.mem_cons.mp hm with rfl | hm
    · exact True.intro
    · rw [List.mem_singleton.mp hm]
      show ',' ∉ "ui".toList
      decide
  -- the service that is built, part by part
  let service : Url := {
    scheme := "http".toList
    host := some (.ipv4 0x7F000001)
    port := some 3000
    path := .segments ["fider".toList, "api".toList, "v1".toList, "posts".toList] }
  have built : Client.ofSettings client = .ok ⟨service, client.maxBytes⟩ := by decide +kernel
  obtain ⟨⟨_, htext⟩, ⟨_, _, _, hlimit⟩, _⟩ :=
    server_reads_page built "/" "tags=a%26b" [] (by decide : 0 < settings.pageSize) hfree
  refine ⟨by decide +kernel, _, built, ?_, hlimit.trans (by decide +kernel)⟩
  rw [htext]
  decide +kernel

end Search.State

end IdeaBoard
