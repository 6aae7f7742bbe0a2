import SwitchAdmin.Proofs.CanonicalUrl

/-!
# Normalised paths never climb

`normalizePath` resolves dot pieces while the path is still percent-encoded, and decodes each
piece only afterwards. The main statement, `normalizePath_never_climbs`, says that the
segments it gives are never empty, `.` or `..`, whatever the input: every spelling of a dot
piece (`.`, `%2e`, `..`, `.%2e`, `%2E.` and so on, after tabs and line breaks are dropped and
with `\` cutting like `/`) is resolved away, `..` at the root removes nothing, and decoding
never turns a piece into a dot segment.

Two facts carry it. Resolving leaves only pieces that are empty or no dot spelling
(`UrlPath.resolve_undotted`, one step at a time). Decoding gives `.` or `..` only from a dot
spelling and the empty segment only from the empty piece (`UrlPath.mem_parentSpellings_of_decodeSegment`
and its siblings): the UTF-8 decoder accepts exactly the encodings of text
(`utf8Decode_eq_ok_iff`), and an escape decodes to a dot only when it is `%2e` or `%2E`
(`percentDecode_eq_dot_cons`). So a double escape such as `%252e` decodes to `%2e`, which is
no dot segment.
-/

namespace SwitchAdmin

/-! ### UTF-8 decoding accepts only encodings -/

theorem toNat_ofNat_of_valid {n : Nat} (h : n < 0xD800 ∨ (0xDFFF < n ∧ n < 0x110000)) :
    (Char.ofNat n).toNat = n := by
  have hv : n.isValidChar := by
    simp only [Nat.isValidChar]
    omega
  rw [Char.ofNat, dif_pos hv]
  rfl

theorem utf8Encode_ofNat_one {b : Nat} (hb : b < 0x80) : utf8Encode (Char.ofNat b) = [b] := by
  have hc : (Char.ofNat b).toNat = b := toNat_ofNat_of_valid (by omega)
  rw [utf8Encode_of_lt (by rw [hc]; exact hb), hc]

theorem isContinuation_iff {b : Nat} : isContinuation b ↔ 0x80 ≤ b ∧ b ≤ 0xBF := by
  simp [isContinuation]

/-- The second byte of a three-byte sequence continues it, and rules out an overlong form
after `E0` and a surrogate after `ED`. -/
theorem secondOfThree_bounds {b c1 : Nat} (h : secondOfThree b c1) :
    0x80 ≤ c1 ∧ c1 ≤ 0xBF ∧ (b = 0xE0 → 0xA0 ≤ c1) ∧ (b = 0xED → c1 ≤ 0x9F) := by
  simp only [secondOfThree, isContinuation] at h
  repeat' split at h
  all_goals
    simp only [Bool.and_eq_true, decide_eq_true_eq] at h
    omega

/-- The second byte of a four-byte sequence continues it, and rules out an overlong form
after `F0` and a code point above U+10FFFF after `F4`. -/
theorem secondOfFour_bounds {b c1 : Nat} (h : secondOfFour b c1) :
    0x80 ≤ c1 ∧ c1 ≤ 0xBF ∧ (b = 0xF0 → 0x90 ≤ c1) ∧ (b = 0xF4 → c1 ≤ 0x8F) := by
  simp only [secondOfFour, isContinuation] at h
  repeat' split at h
  all_goals
    simp only [Bool.and_eq_true, decide_eq_true_eq] at h
    omega

theorem utf8Encode_ofNat_two {b c1 : Nat} (hb : 0xC2 ≤ b ∧ b ≤ 0xDF) (h1 : isContinuation c1) :
    utf8Encode (Char.ofNat ((b - 0xC0) * 0x40 + (c1 - 0x80))) = [b, c1] := by
  have h1 := isContinuation_iff.mp h1
  generalize hn : (b - 0xC0) * 0x40 + (c1 - 0x80) = n
  simp only [utf8Encode, toNat_ofNat_of_valid (n := n) (by omega)]
  rw [if_neg (by omega), if_pos (by omega)]
  simp only [List.cons.injEq, and_true]
  omega

theorem utf8Encode_ofNat_three {b c1 c2 : Nat} (hb : 0xE0 ≤ b ∧ b ≤ 0xEF)
    (h1 : secondOfThree b c1) (h2 : isContinuation c2) :
    utf8Encode (Char.ofNat (((b - 0xE0) * 0x40 + (c1 - 0x80)) * 0x40 + (c2 - 0x80))) =
      [b, c1, c2] := by
  have h1 := secondOfThree_bounds h1
  have h2 := isContinuation_iff.mp h2
  generalize hn : ((b - 0xE0) * 0x40 + (c1 - 0x80)) * 0x40 + (c2 - 0x80) = n
  simp only [utf8Encode, toNat_ofNat_of_valid (n := n) (by omega)]
  rw [if_neg (by omega), if_neg (by omega), if_pos (by omega)]
  simp only [List.cons.injEq, and_true]
  omega

theorem utf8Encode_ofNat_four {b c1 c2 c3 : Nat} (hb : 0xF0 ≤ b ∧ b ≤ 0xF4)
    (h1 : secondOfFour b c1) (h2 : isContinuation c2) (h3 : isContinuation c3) :
    utf8Encode (Char.ofNat ((((b - 0xF0) * 0x40 + (c1 - 0x80)) * 0x40 + (c2 - 0x80)) * 0x40
      + (c3 - 0x80))) = [b, c1, c2, c3] := by
  have h1 := secondOfFour_bounds h1
  have h2 := isContinuation_iff.mp h2
  have h3 := isContinuation_iff.mp h3
  generalize hn : (((b - 0xF0) * 0x40 + (c1 - 0x80)) * 0x40 + (c2 - 0x80)) * 0x40
    + (c3 - 0x80) = n
  simp only [utf8Encode, toNat_ofNat_of_valid (n := n) (by omega)]
  rw [if_neg (by omega), if_neg (by omega), if_neg (by omega)]
  simp only [List.cons.injEq, and_true]
  omega

/-- One more character read: the bytes read so far are its encoding followed by the rest. -/
theorem decoded_cons {c : Char} {bs bytes : List Nat} {acc cs : List Char}
    (henc : utf8Encode c = bs)
    (hrest : ∃ ds, cs = (c :: acc).reverse ++ ds ∧ ds.flatMap utf8Encode = bytes) :
    ∃ ds, cs = acc.reverse ++ ds ∧ ds.flatMap utf8Encode = bs ++ bytes := by
  obtain ⟨ds, rfl, hds⟩ := hrest
  exact ⟨c :: ds, by simp, by rw [List.flatMap_cons, henc, hds]⟩

/-- What decoding reads from some bytes is text whose encoding is those bytes. -/
theorem utf8DecodeFrom_eq_ok {pos : Nat} {acc cs : List Char} {bytes : List Nat}
    (h : utf8DecodeFrom pos acc bytes = .ok cs) :
    ∃ ds, cs = acc.reverse ++ ds ∧ ds.flatMap utf8Encode = bytes := by
  fun_induction utf8DecodeFrom pos acc bytes generalizing cs
  case case1 acc =>
    cases h
    exact ⟨[], by simp, rfl⟩
  case case2 b rest hb ih => exact decoded_cons (utf8Encode_ofNat_one hb) (ih h)
  case case4 b _ hb c1 rest h1 ih => exact decoded_cons (utf8Encode_ofNat_two hb h1) (ih h)
  case case9 b _ _ hb c1 h1 c2 rest h2 ih =>
    exact decoded_cons (utf8Encode_ofNat_three hb (by simpa using h1) h2) (ih h)
  case case16 b _ _ _ hb c1 h1 c2 h2 c3 rest h3 ih =>
    exact decoded_cons (utf8Encode_ofNat_four hb (by simpa using h1) (by simpa using h2) h3) (ih h)
  -- every other branch reports an error
  all_goals cases h

/-- **The decoder accepts exactly the encodings of text**: it reads some bytes as a string
exactly when they are that string's UTF-8 bytes. -/
theorem utf8Decode_eq_ok_iff {bytes : List Nat} {s : String} :
    utf8Decode bytes = .ok s ↔ utf8Bytes s = bytes := by
  constructor
  · intro h
    simp only [utf8Decode] at h
    rcases hdec : utf8DecodeFrom 0 [] bytes with e | cs
    · rw [hdec] at h
      cases h
    · rw [hdec] at h
      cases h
      obtain ⟨ds, rfl, hds⟩ := utf8DecodeFrom_eq_ok hdec
      simpa [utf8Bytes] using hds
  · rintro rfl
    exact utf8Decode_utf8Bytes s

theorem utf8Bytes_injective {s t : String} (h : utf8Bytes s = utf8Bytes t) : s = t := by
  have hs := utf8Decode_utf8Bytes s
  rw [h, utf8Decode_utf8Bytes] at hs
  cases hs
  rfl

theorem utf8Bytes_append (s t : String) : utf8Bytes (s ++ t) = utf8Bytes s ++ utf8Bytes t := by
  simp [utf8Bytes]

/-! ### Percent-decoding -/

theorem percentDecode_eq_nil_iff {bytes : List Nat} : percentDecode bytes = [] ↔ bytes = [] := by
  constructor
  · intro h
    match bytes, h with
    | [], _ => rfl
    | b :: hi :: lo :: rest, h =>
      rw [percentDecode] at h
      split_ifs at h
      · split at h <;> cases h
  · rintro rfl
    rfl

/-- Where the first decoded byte comes from: the byte itself, or an escape of two hex digits
that name it. -/
theorem percentDecode_eq_cons {bytes out : List Nat} {o : Nat} (h : percentDecode bytes = o :: out) :
    (∃ rest, bytes = o :: rest ∧ percentDecode rest = out) ∨
      ∃ hi lo rest x y, bytes = 0x25 :: hi :: lo :: rest ∧ hexByteValue hi = some x ∧
        hexByteValue lo = some y ∧ o = x * 16 + y ∧ percentDecode rest = out := by
  match bytes, h with
  | [b], h =>
    cases h
    exact .inl ⟨[], rfl, rfl⟩
  | [b, c], h =>
    cases h
    exact .inl ⟨[c], rfl, rfl⟩
  | b :: hi :: lo :: rest, h =>
    rw [percentDecode] at h
    split_ifs at h with hb
    · split at h
      next x y hx hy =>
        cases h
        exact .inr ⟨hi, lo, rest, x, y, by rw [hb], hx, hy, rfl, rfl⟩
      next =>
        cases h
        exact .inl ⟨_, rfl, rfl⟩
    · cases h
      exact .inl ⟨_, rfl, rfl⟩

theorem hexByteValue_eq_some {b v : Nat} (h : hexByteValue b = some v) :
    v < 16 ∧ (b = 0x30 + v ∧ v < 10 ∨ b = 0x41 + v - 10 ∧ 10 ≤ v ∨ b = 0x61 + v - 10 ∧ 10 ≤ v) := by
  unfold hexByteValue at h
  split_ifs at h <;> cases h <;> omega

/-- A decoded `.` comes from a `.`, or from the escape `%2e` or `%2E`. -/
theorem percentDecode_eq_dot_cons {bytes out : List Nat} (h : percentDecode bytes = 0x2E :: out) :
    ∃ sp ∈ UrlPath.currentSpellings, ∃ rest, bytes = utf8Bytes sp ++ rest ∧ percentDecode rest = out := by
  rcases percentDecode_eq_cons h with ⟨rest, rfl, hrest⟩ | ⟨hi, lo, rest, x, y, rfl, hx, hy, hxy, hrest⟩
  · exact ⟨".", by decide, rest, rfl, hrest⟩
  · obtain ⟨hx16, hx'⟩ := hexByteValue_eq_some hx
    obtain ⟨hy16, hy'⟩ := hexByteValue_eq_some hy
    -- `0x2E` is `2 * 16 + 14`: the digits are `2` and `e` or `E`
    have hhi : hi = 0x32 := by omega
    subst hhi
    have hlo : lo = 0x45 ∨ lo = 0x65 := by omega
    rcases hlo with rfl | rfl
    · exact ⟨"%2E", by decide, rest, rfl, hrest⟩
    · exact ⟨"%2e", by decide, rest, rfl, hrest⟩

/-- A parent spelling is two current spellings one after the other. -/
theorem append_mem_parentSpellings :
    ∀ sp ∈ UrlPath.currentSpellings, ∀ sp' ∈ UrlPath.currentSpellings,
      sp ++ sp' ∈ UrlPath.parentSpellings := by
  decide +kernel

/-! ### Decoding a segment -/

namespace UrlPath

/-- A decoded segment's UTF-8 bytes are what percent-decoding its encoded form gives. -/
theorem percentDecode_of_decodeSegment {e s : String} (h : decodeSegment e = .ok s) :
    percentDecode (utf8Bytes e) = utf8Bytes s := by
  unfold decodeSegment at h
  split at h
  next s' hs =>
    cases h
    exact (utf8Decode_eq_ok_iff.mp hs).symm
  next => cases h

/-- Only the empty piece decodes to the empty segment. -/
theorem eq_empty_of_decodeSegment {e : String} (h : decodeSegment e = .ok "") : e = "" := by
  have hbytes : utf8Bytes e = utf8Bytes "" :=
    percentDecode_eq_nil_iff.mp (percentDecode_of_decodeSegment h)
  exact utf8Bytes_injective hbytes

/-- Only a current-directory spelling decodes to `.`. -/
theorem mem_currentSpellings_of_decodeSegment {e : String} (h : decodeSegment e = .ok ".") :
    e ∈ currentSpellings := by
  obtain ⟨sp, hsp, rest, he, hrest⟩ := percentDecode_eq_dot_cons (percentDecode_of_decodeSegment h)
  rw [percentDecode_eq_nil_iff.mp hrest, List.append_nil] at he
  rwa [utf8Bytes_injective he]

/-- Only a parent-directory spelling decodes to `..`: each of its dots is a current-directory
spelling. -/
theorem mem_parentSpellings_of_decodeSegment {e : String} (h : decodeSegment e = .ok "..") :
    e ∈ parentSpellings := by
  obtain ⟨sp, hsp, rest, he, hrest⟩ := percentDecode_eq_dot_cons (percentDecode_of_decodeSegment h)
  obtain ⟨sp', hsp', rest', rfl, hrest'⟩ := percentDecode_eq_dot_cons hrest
  rw [percentDecode_eq_nil_iff.mp hrest', List.append_nil, ← utf8Bytes_append] at he
  rw [utf8Bytes_injective he]
  exact append_mem_parentSpellings sp hsp sp' hsp'

/-! ### Resolving dot pieces -/

/-- A piece that resolving may leave in a path: the empty piece, or one that is no dot
spelling. -/
def Undotted (p : String) : Prop := p = "" ∨ p ∉ parentSpellings ∧ p ∉ currentSpellings

/-- One step of resolving keeps every piece undotted: a dot piece removes a piece or adds an
empty one, any other piece is added as it is. -/
theorem step_undotted {path : List String} (hpath : ∀ p ∈ path, Undotted p) (piece : String)
    (last : Bool) : ∀ p ∈ step path piece last, Undotted p := by
  have hempty : ∀ p ∈ (if last then [""] else []), Undotted p := by
    intro p hp
    cases last <;> simp_all [Undotted]
  intro p hp
  by_cases hparent : parentSpellings.contains piece
  · rw [step, if_pos hparent] at hp
    rcases List.mem_append.mp hp with hp | hp
    · exact hpath p (List.dropLast_subset _ hp)
    · exact hempty p hp
  by_cases hcurrent : currentSpellings.contains piece
  · rw [step, if_neg hparent, if_pos hcurrent] at hp
    rcases List.mem_append.mp hp with hp | hp
    · exact hpath p hp
    · exact hempty p hp
  rw [step, if_neg hparent, if_neg hcurrent] at hp
  rcases List.mem_append.mp hp with hp | hp
  · exact hpath p hp
  · rw [List.mem_singleton] at hp
    subst hp
    exact .inr ⟨by simpa using hparent, by simpa using hcurrent⟩

/-- Resolving keeps every piece undotted, step after step. -/
theorem resolve_undotted :
    ∀ (path pieces : List String), (∀ p ∈ path, Undotted p) → ∀ p ∈ resolve path pieces, Undotted p
  | path, [], h => by simpa [resolve] using h
  | path, [q], h => by
    rw [resolve]
    exact step_undotted h q true
  | path, q :: r :: rest, h => by
    rw [resolve.eq_3 _ _ _ (List.cons_ne_nil _ _)]
    exact resolve_undotted _ _ (step_undotted h q false)

theorem encodedPieces_undotted (input : String) : ∀ p ∈ encodedPieces input, Undotted p :=
  resolve_undotted [] _ (by simp)

end UrlPath

/-- Every result of a successful `mapM` is the result for some input. -/
theorem exists_of_mapM_eq_ok {α β ε : Type} {f : α → Except ε β} :
    ∀ {xs : List α} {ys : List β}, xs.mapM f = .ok ys → ∀ y ∈ ys, ∃ x ∈ xs, f x = .ok y
  | [], ys, h, y, hy => by
    cases h
    cases hy
  | x :: xs, ys, h, y, hy => by
    rw [List.mapM_cons] at h
    rcases hx : f x with e | b
    · rw [hx] at h
      cases h
    rcases hxs : xs.mapM f with e | bs
    · rw [hx, hxs] at h
      cases h
    rw [hx, hxs] at h
    cases h
    rcases List.mem_cons.mp hy with rfl | hy
    · exact ⟨x, List.mem_cons_self, hx⟩
    · obtain ⟨x', hx', hfx'⟩ := exists_of_mapM_eq_ok hxs y hy
      exact ⟨x', List.mem_cons_of_mem _ hx', hfx'⟩

/-- **Normalised paths never climb.** Every segment of a normalised path is non-empty and
neither `.` nor `..`: resolving removes every dot spelling while the path is still encoded,
and decoding gives a dot segment only from a dot spelling. -/
theorem normalizePath_never_climbs {toAscii : DomainToAscii} {input : String}
    {segs : List String} (h : normalizePath toAscii input = .ok segs) : ∀ s ∈ segs, s ≠ "" ∧ s ≠ "." ∧ s ≠ ".." := by
  unfold normalizePath at h
  split at h
  · cases h
  intro s hs
  obtain ⟨e, he, hdecode⟩ := exists_of_mapM_eq_ok h s hs
  obtain ⟨hpiece, hne⟩ := List.mem_filter.mp he
  have hne : e ≠ "" := by simpa using hne
  rcases UrlPath.encodedPieces_undotted input e hpiece with hempty | ⟨hparent, hcurrent⟩
  · exact absurd hempty hne
  refine ⟨?_, ?_, ?_⟩
  · rintro rfl
    exact hne (UrlPath.eq_empty_of_decodeSegment hdecode)
  · rintro rfl
    exact hcurrent (UrlPath.mem_currentSpellings_of_decodeSegment hdecode)
  · rintro rfl
    exact hparent (UrlPath.mem_parentSpellings_of_decodeSegment hdecode)

/-- Dots in every spelling, a tab inside one of them and a backslash as a separator: only the
double escape `%252e` and the dot after `x` survive, as `%2e` and `x.`. -/
theorem normalizePath_encoded_dots :
    normalizePath Host.asciiLower "/auth/.\t%2E\\%2e/%252e/x%2e" = .ok ["%2e", "x."] ∧
      ∀ s ∈ ["%2e", "x."], s ≠ "" ∧ s ≠ "." ∧ s ≠ ".." := by
  have h : normalizePath Host.asciiLower "/auth/.\t%2E\\%2e/%252e/x%2e" = .ok ["%2e", "x."] :=
    Except.eq_ok_of_toOption_eq_some (by decide +kernel)
  exact ⟨h, normalizePath_never_climbs h⟩

end SwitchAdmin
