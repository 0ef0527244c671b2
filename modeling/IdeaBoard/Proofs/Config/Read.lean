import Mathlib.Data.List.TakeWhile
import IdeaBoard.Proofs.Config.Scan

/-!
# IdeaBoard — reading a written configuration

The tokens of a written configuration are read as a group of fields, each with one token for its value;
all the names are known and none is there twice; and each value is read as what it was written for.

* **`Token.IsValue`** — a token that is a value by itself, in front of a comma.
* **`run?_lines`** — lines of such values are read as fields, in order; `parse?_document` is the tree of
  the whole text.
* **`naturalBelow?_toDigits`** — a number below the bound is read from its digits, up to the largest.
* **`parse?_text`** — so the configuration is read from its text.
-/

namespace IdeaBoard.Config

/-! ## The tree -/

def Token.leaf : Token → Tree
  | .name s raw => .name s raw
  | .number cs => .number cs
  | .text s => .text s
  | _ => .other

/-- Between the colon and the comma of a field, the token is the value of the field. -/
def Token.IsValue (t : Token) : Prop :=
  ∀ name done key, Reader.run? {} ⟨[.record name done key], .value⟩ [t, .comma] =
    some ⟨[], .field name ((key, t.leaf) :: done)⟩

theorem isValue_text (s : String) : (Token.text s).IsValue := fun _ _ _ => rfl

theorem isValue_number (cs : List Char) : (Token.number cs).IsValue := fun _ _ _ => rfl

/-- The names of the destinations are no words with a meaning of their own, as `Some` and `None` are. -/
theorem isValue_destination (d : Log.Destination) : (Token.name d.name false).IsValue := by
  cases d <;> exact fun _ _ _ => rfl

theorem isValue_fieldTokens (c : Config) : ∀ field ∈ c.fieldTokens, field.2.IsValue := by
  simp [fieldTokens, isValue_text, isValue_number, isValue_destination]

theorem run?_append {ext : Extensions} {r u : Reader} {ts : List Token}
    (h : r.run? ext ts = some u) (us : List Token) : r.run? ext (ts ++ us) = u.run? ext us := by
  induction ts generalizing r with
  | nil =>
    obtain rfl := Option.some.inj h
    rfl
  | cons t ts ih =>
    rw [Reader.run?] at h
    obtain ⟨next, hnext, hrest⟩ := Option.bind_eq_some_iff.mp h
    rw [List.cons_append, Reader.run?, hnext]
    exact ih hrest

def leafField (field : String × Token) : String × Tree := (field.1, field.2.leaf)

/-- **Lines are read as fields, in order.** -/
theorem run?_lines (done : List (String × Tree)) {fields : List (String × Token)}
    (h : ∀ field ∈ fields, field.2.IsValue) :
    Reader.run? {} ⟨[], .field none done⟩ (fields.flatMap lineTokens) =
      some ⟨[], .field none ((fields.map leafField).reverse ++ done)⟩ := by
  induction fields generalizing done with
  | nil => rfl
  | cons field fields ih =>
    -- the name and the colon open the field, the value and the comma close it
    have hline : Reader.run? {} ⟨[], .field none done⟩ (lineTokens field) =
        some ⟨[], .field none (leafField field :: done)⟩ :=
      h field List.mem_cons_self none done field.1
    have hrest := ih (leafField field :: done) fun f hf => h f (List.mem_cons_of_mem _ hf)
    rw [List.flatMap_cons, run?_append hline, hrest]
    simp

/-- **Lines between parentheses are read as a group of fields.** -/
theorem tree?_lines {field : String × Token} {fields : List (String × Token)}
    (h : ∀ f ∈ field :: fields, f.2.IsValue) :
    (Reader.run? {} ⟨[], .value⟩
        (.openParen :: (field :: fields).flatMap lineTokens ++ [.closeParen])).bind Reader.tree? =
      some (.record none ((field :: fields).map leafField)) := by
  -- only after the first name and its colon is the group one of fields
  have hfirst : Reader.run? {} ⟨[], .value⟩ (.openParen :: lineTokens field) =
      some ⟨[], .field none [leafField field]⟩ := h field List.mem_cons_self none [] field.1
  have hrest := run?_lines [leafField field] fun f hf => h f (List.mem_cons_of_mem _ hf)
  have hsplit : (.openParen :: (field :: fields).flatMap lineTokens ++ [.closeParen] : List Token) =
      (.openParen :: lineTokens field) ++ (fields.flatMap lineTokens ++ [.closeParen]) := by
    simp
  rw [hsplit, run?_append hfirst, run?_append hrest]
  show some (Tree.record none ((fields.map leafField).reverse ++ [leafField field]).reverse) = _
  rw [List.reverse_append, List.reverse_reverse]
  rfl

/-- **The tree of a written configuration** is a group of its fields, without a name in front. -/
theorem parse?_document (c : Config) :
    Document.parse? c.text.toList = some ⟨{}, .record none (c.fieldTokens.map leafField)⟩ := by
  have hread : Extensions.read? {} (.openParen :: c.fieldTokens.flatMap lineTokens ++ [.closeParen]) =
      some ({}, .openParen :: c.fieldTokens.flatMap lineTokens ++ [.closeParen]) := rfl
  have htree := tree?_lines (isValue_fieldTokens c)
  obtain ⟨r, hrun, hr⟩ := Option.bind_eq_some_iff.mp htree
  rw [Document.parse?, tokens?_text]
  simp only [Option.bind_eq_bind, Option.bind_some, hread]
  rw [show Reader.run? {} ⟨[], .value⟩
    (.openParen :: c.fieldTokens.flatMap lineTokens ++ [.closeParen]) = some r from hrun]
  simp only [Option.bind_some, hr]
  rfl

/-! ## Numbers -/

theorem hexDigit?_of_isDigit {ch : Char} (h : ch.isDigit = true) :
    Text.hexDigit? ch = some (ch.toNat - 0x30) := by
  have hbounds : '0' ≤ ch ∧ ch ≤ '9' := by
    simp only [Char.isDigit, Bool.and_eq_true, decide_eq_true_eq] at h
    exact h
  rw [Text.hexDigit?, if_pos hbounds]

theorem isIntegerChar_of_isDigit {ch : Char} (h : ch.isDigit = true) : isIntegerChar ch = true := by
  rw [isIntegerChar, hexDigit?_of_isDigit h]
  rfl

/-- Decimal digits have the value that they have anywhere. -/
theorem valueFrom?_digits (acc : Nat) {cs : List Char} (h : ∀ ch ∈ cs, ch.isDigit = true) :
    valueFrom? 10 acc cs = some (Nat.ofDigitChars 10 cs acc) := by
  induction cs generalizing acc with
  | nil => rfl
  | cons ch cs ih =>
    have hdigit : ch.isDigit = true := h ch List.mem_cons_self
    obtain ⟨hlo, hhi⟩ := Text.toNat_of_isDigit hdigit
    have hmark : ch ≠ '_' := by
      rintro rfl
      exact absurd hdigit (by decide)
    have hten : ch.toNat - 0x30 < 10 := by omega
    rw [valueFrom?, if_neg hmark, hexDigit?_of_isDigit hdigit]
    simp only [Option.bind_eq_bind, Option.bind_some, if_pos hten]
    rw [ih _ fun d hd => h d (List.mem_cons_of_mem _ hd), Nat.ofDigitChars_cons, Nat.mul_comm acc]
    rfl

/-- A numeral has no sign and no base mark in front, no underscore in it, and no name behind it. -/
theorem parse?_toDigits (n : Nat) : IntegerText.parse? (Nat.toDigits 10 n) = some ⟨false, n, []⟩ := by
  have hdigits : ∀ ch ∈ Nat.toDigits 10 n, ch.isDigit = true := fun ch hch =>
    Nat.isDigit_of_mem_toDigits (by decide) (by decide) hch
  have hvalue : valueFrom? 10 0 (Nat.toDigits 10 n) = some n := by
    rw [valueFrom?_digits 0 hdigits, Nat.ofDigitChars_toDigits (by decide) (by decide)]
  have hne : Nat.toDigits 10 n ≠ [] := Nat.toDigits_ne_nil
  -- from here on it matters only that they are digits, and which number they make
  generalize Nat.toDigits 10 n = cs at hdigits hvalue hne
  have hsign : signed cs = (false, cs) := by
    unfold signed
    split
    · exact absurd (hdigits '+' List.mem_cons_self) (by decide)
    · exact absurd (hdigits '-' List.mem_cons_self) (by decide)
    · rfl
  have hbase : based cs = (10, cs) := by
    unfold based
    split
    · exact absurd (hdigits 'b' (List.mem_cons_of_mem _ List.mem_cons_self)) (by decide)
    · exact absurd (hdigits 'o' (List.mem_cons_of_mem _ List.mem_cons_self)) (by decide)
    · exact absurd (hdigits 'x' (List.mem_cons_of_mem _ List.mem_cons_self)) (by decide)
    · rfl
  have htake : cs.takeWhile isIntegerChar = cs :=
    List.takeWhile_eq_self_iff.mpr fun ch hch => isIntegerChar_of_isDigit (hdigits ch hch)
  have hdrop : cs.dropWhile isIntegerChar = [] :=
    List.dropWhile_eq_nil_iff.mpr fun ch hch => isIntegerChar_of_isDigit (hdigits ch hch)
  have hmark : cs.head? ≠ some '_' := fun h =>
    absurd (hdigits '_' (List.mem_of_head? h)) (by decide)
  rw [IntegerText.parse?, hsign]
  simp only [hbase, htake, hdrop]
  rw [if_neg (by simp [hne, hmark]), hvalue]
  rfl

/-- **A number below the bound is read from its digits.** -/
theorem naturalBelow?_toDigits {bound n : Nat} (h : n < bound) (typeName : List Char) :
    naturalBelow? bound typeName (Nat.toDigits 10 n) = some n := by
  rw [naturalBelow?, parse?_toDigits]
  simp [h]

/-- A number of 64 bits is read from its digits. -/
theorem word64?_number (n : UInt64) :
    Tree.word64? (.number (Nat.toDigits 10 n.toNat)) = some n := by
  rw [Tree.word64?, naturalBelow?_toDigits n.toNat_lt, Option.map_some, UInt64.ofNat_toNat]

/-- A number of 32 bits is read from its digits. -/
theorem word32?_number (n : UInt32) :
    Tree.word32? (.number (Nat.toDigits 10 n.toNat)) = some n := by
  rw [Tree.word32?, naturalBelow?_toDigits n.toNat_lt, Option.map_some, UInt32.ofNat_toNat]

theorem logDestination?_name (d : Log.Destination) :
    Tree.logDestination? (.name d.name false) = some d := by
  cases d <;> decide

/-! ## Fields -/

/-- Fields of which all names are known, and none comes twice, are all taken up. -/
theorem known?_of_nodup {fields : List (String × Tree)} (known : ∀ f ∈ fields, f.1 ∈ keys)
    (nodup : (fields.map Prod.fst).Nodup) : known? fields = some fields := by
  induction fields with
  | nil => rfl
  | cons f fields ih =>
    obtain ⟨hnot, hrest⟩ := List.nodup_cons.mp nodup
    have hfields := ih (fun g hg => known g (List.mem_cons_of_mem _ hg)) hrest
    -- no later field has the name of the first
    have honce : fields.any (·.1 = f.1) = false := by
      rw [List.any_eq_false]
      intro g hg hsame
      exact hnot (List.mem_map.mpr ⟨g, hg, of_decide_eq_true hsame⟩)
    obtain ⟨key, t⟩ := f
    rw [known?, hfields]
    simp only [Option.bind_eq_bind, Option.bind_some, if_pos (known _ List.mem_cons_self), honce]
    rfl

theorem nodup_keys : keys.Nodup := by decide

/-- The fields that are written are known, and none comes twice. -/
theorem known?_leafFields (c : Config) :
    known? (c.fieldTokens.map leafField) = some (c.fieldTokens.map leafField) := by
  have hkeys : (c.fieldTokens.map leafField).map Prod.fst = keys := rfl
  refine known?_of_nodup (fun f hf => ?_) (hkeys ▸ nodup_keys)
  rw [← hkeys]
  exact List.mem_map_of_mem hf

/-- **A field that is written is found under its name**, so that no default takes its place. -/
theorem read?_written (c : Config) {field : String × Token} (h : field ∈ c.fieldTokens) {α : Type}
    (reader : Tree → Option α) (default : α) :
    read? (c.fieldTokens.map leafField) field.1 reader default = reader field.2.leaf := by
  have hfind : (c.fieldTokens.map leafField).find? (fun f => f.1 = field.1) =
      some (leafField field) := by
    -- the names differ, so the first field with this name is this one
    have hkeys : c.fieldTokens.map Prod.fst = keys := rfl
    have hnodup : (c.fieldTokens.map Prod.fst).Nodup := hkeys ▸ nodup_keys
    clear hkeys
    generalize c.fieldTokens = fields at h hnodup
    induction fields with
    | nil => exact absurd h List.not_mem_nil
    | cons f fields ih =>
      obtain ⟨hnot, hrest⟩ := List.nodup_cons.mp hnodup
      rw [List.map_cons, List.find?_cons]
      rcases List.mem_cons.mp h with rfl | hin
      · simp [leafField]
      · have hne : (leafField f).1 ≠ field.1 := fun hsame =>
          hnot (hsame ▸ List.mem_map_of_mem hin)
        simp only [decide_eq_false hne]
        exact ih hin hrest
  rw [read?, hfind]
  rfl

/-- The fields that are written make the configuration. -/
theorem ofFields?_leafFields (c : Config) :
    ofFields? (c.fieldTokens.map leafField) = some c := by
  -- fields of one kind differ in nothing but name and value
  have hword64 : ∀ (key : String) (n : UInt64),
      (key, .number (Nat.toDigits 10 n.toNat)) ∈ c.fieldTokens → ∀ default,
      read? (c.fieldTokens.map leafField) key Tree.word64? default = some n :=
    fun _ n h default => (read?_written c h _ default).trans (word64?_number n)
  have hword32 : ∀ (key : String) (n : UInt32),
      (key, .number (Nat.toDigits 10 n.toNat)) ∈ c.fieldTokens → ∀ default,
      read? (c.fieldTokens.map leafField) key Tree.word32? default = some n :=
    fun _ n h default => (read?_written c h _ default).trans (word32?_number n)
  have hbaseUrl : ∀ default, read? (c.fieldTokens.map leafField) "base_url" Tree.text? default =
      some c.baseUrl := by
    have hmem : ("base_url", .text c.baseUrl) ∈ c.fieldTokens := by simp [fieldTokens]
    exact read?_written c hmem Tree.text?
  have hdestination : ∀ default, read? (c.fieldTokens.map leafField) "log_destination"
      Tree.logDestination? default = some c.logDestination := by
    have hmem : ("log_destination", .name c.logDestination.name false) ∈ c.fieldTokens := by
      simp [fieldTokens]
    exact fun default => (read?_written c hmem _ default).trans (logDestination?_name _)
  unfold ofFields?
  simp only [hbaseUrl, hdestination,
    hword64 "debounce_ms" c.debounceMs (by simp [fieldTokens]),
    hword32 "page_size" c.pageSize (by simp [fieldTokens]),
    hword32 "page_step" c.pageStep (by simp [fieldTokens]),
    hword64 "connect_timeout_ms" c.connectTimeoutMs (by simp [fieldTokens]),
    hword64 "request_timeout_ms" c.requestTimeoutMs (by simp [fieldTokens]),
    hword64 "max_response_bytes" c.maxResponseBytes (by simp [fieldTokens])]
  rfl

/-- **A written configuration is read as itself.** -/
theorem parse?_text (c : Config) : parse? c.text.toList = some c := by
  have hfields : (Document.mk {} (.record none (c.fieldTokens.map leafField))).fields? =
      some (c.fieldTokens.map leafField) := rfl
  rw [parse?, parse?_document]
  simp only [Option.bind_eq_bind, Option.bind_some, hfields, known?_leafFields]
  exact ofFields?_leafFields c

end IdeaBoard.Config
