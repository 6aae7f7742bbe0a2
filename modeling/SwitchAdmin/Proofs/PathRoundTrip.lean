import Mathlib.Data.List.TakeWhile
import SwitchAdmin.Url.Path

/-!
# Reading a joined path gives its segments back

`joinSegments` writes segments as a path, a slash before each, and `normalizePath` reads a
path into segments: it stops at a `?` or a `#`, drops tabs and line breaks, cuts at every
slash and backslash, writes each piece as a URL path writes it (`%XX` for the UTF-8 bytes of
the characters a path escapes), resolves dot pieces, and decodes each piece again.

The two are inverse on *plain* segments (`plainSegment`): non-empty segments other than `.`
and `..` with none of the characters that reading stops at, cuts at, drops or decodes. Every
other character survives, non-ASCII ones included: it is written as the escapes of its UTF-8
bytes and decoded back.

The main statement is `normalizePath_joinSegments`. It rests on three round trips, each
proved once: UTF-8 decoding of encoded characters (`utf8Decode_utf8Bytes`), percent-decoding
of an encoded piece (`percentDecode_encodePiece`), and cutting a joined text
(`cut_joinWith`). That no piece reads as a dot piece is a consequence of the second: the dot
spellings decode to `.` and `..`, and a plain piece decodes to itself.
-/

namespace SwitchAdmin

/-! ### UTF-8 -/

section Utf8

variable {pos : Nat} {acc : List Char} {rest : List Nat}

theorem utf8DecodeFrom_one {b : Nat} (hb : b < 0x80) :
    utf8DecodeFrom pos acc (b :: rest) = utf8DecodeFrom (pos + 1) (Char.ofNat b :: acc) rest := by
  rw [utf8DecodeFrom.eq_def]
  simp only [if_pos hb]

theorem utf8DecodeFrom_two {b c1 : Nat} (hb : 0xC2 ≤ b ∧ b ≤ 0xDF) (h1 : isContinuation c1) :
    utf8DecodeFrom pos acc (b :: c1 :: rest) =
      utf8DecodeFrom (pos + 2) (Char.ofNat ((b - 0xC0) * 0x40 + (c1 - 0x80)) :: acc) rest := by
  rw [utf8DecodeFrom.eq_def]
  simp only [if_neg (show ¬b < 0x80 by omega), if_pos hb, if_pos h1]

theorem utf8DecodeFrom_three {b c1 c2 : Nat} (hb : 0xE0 ≤ b ∧ b ≤ 0xEF)
    (h1 : secondOfThree b c1) (h2 : isContinuation c2) :
    utf8DecodeFrom pos acc (b :: c1 :: c2 :: rest) =
      utf8DecodeFrom (pos + 3)
        (Char.ofNat (((b - 0xE0) * 0x40 + (c1 - 0x80)) * 0x40 + (c2 - 0x80)) :: acc) rest := by
  rw [utf8DecodeFrom.eq_def]
  simp only [if_neg (show ¬b < 0x80 by omega), if_neg (show ¬(0xC2 ≤ b ∧ b ≤ 0xDF) by omega),
    if_pos hb, h1, h2, Bool.not_true, Bool.false_eq_true, if_false, if_true]

theorem utf8DecodeFrom_four {b c1 c2 c3 : Nat} (hb : 0xF0 ≤ b ∧ b ≤ 0xF4)
    (h1 : secondOfFour b c1) (h2 : isContinuation c2) (h3 : isContinuation c3) :
    utf8DecodeFrom pos acc (b :: c1 :: c2 :: c3 :: rest) =
      utf8DecodeFrom (pos + 4)
        (Char.ofNat ((((b - 0xF0) * 0x40 + (c1 - 0x80)) * 0x40 + (c2 - 0x80)) * 0x40
          + (c3 - 0x80)) :: acc) rest := by
  rw [utf8DecodeFrom.eq_def]
  simp only [if_neg (show ¬b < 0x80 by omega), if_neg (show ¬(0xC2 ≤ b ∧ b ≤ 0xDF) by omega),
    if_neg (show ¬(0xE0 ≤ b ∧ b ≤ 0xEF) by omega), if_pos hb, h1, h2, h3, Bool.not_true,
    Bool.false_eq_true, if_false, if_true]

/-- Decoding the UTF-8 bytes of one character reads that character. Which of the four forms
is used depends on the code point; the range checks on the second byte hold because a
character is never a surrogate and never above U+10FFFF. -/
theorem utf8DecodeFrom_encode_append (c : Char) :
    utf8DecodeFrom pos acc (utf8Encode c ++ rest) =
      utf8DecodeFrom (pos + (utf8Encode c).length) (c :: acc) rest := by
  obtain ⟨n, hn⟩ : ∃ n, c.toNat = n := ⟨_, rfl⟩
  have hc : n < 0xD800 ∨ (0xDFFF < n ∧ n < 0x110000) := hn ▸ c.valid
  have hback : Char.ofNat n = c := hn ▸ Char.ofNat_toNat c
  by_cases h1 : n < 0x80
  · have henc : utf8Encode c = [n] := by simp [utf8Encode, hn, h1]
    rw [henc, List.singleton_append, utf8DecodeFrom_one h1, hback]
    rfl
  by_cases h2 : n < 0x800
  · have henc : utf8Encode c = [0xC0 + n / 0x40, 0x80 + n % 0x40] := by
      simp [utf8Encode, hn, h1, h2]
    have hval : (0xC0 + n / 0x40 - 0xC0) * 0x40 + (0x80 + n % 0x40 - 0x80) = n := by omega
    rw [henc, List.cons_append, List.cons_append, List.nil_append,
      utf8DecodeFrom_two (by omega) (by simp [isContinuation]; omega), hval, hback]
    rfl
  by_cases h3 : n < 0x10000
  · have henc : utf8Encode c = [0xE0 + n / 0x1000, 0x80 + n / 0x40 % 0x40, 0x80 + n % 0x40] := by
      simp [utf8Encode, hn, h1, h2, h3]
    have hval : ((0xE0 + n / 0x1000 - 0xE0) * 0x40 + (0x80 + n / 0x40 % 0x40 - 0x80)) * 0x40 +
        (0x80 + n % 0x40 - 0x80) = n := by omega
    -- no overlong form after E0, no surrogate after ED
    have hsecond : secondOfThree (0xE0 + n / 0x1000) (0x80 + n / 0x40 % 0x40) := by
      simp only [secondOfThree, isContinuation]
      repeat' split
      all_goals
        simp only [Bool.and_eq_true, decide_eq_true_eq]
        omega
    rw [henc, List.cons_append, List.cons_append, List.cons_append, List.nil_append,
      utf8DecodeFrom_three (by omega) hsecond (by simp [isContinuation]; omega), hval, hback]
    rfl
  · have henc : utf8Encode c = [0xF0 + n / 0x40000, 0x80 + n / 0x1000 % 0x40,
        0x80 + n / 0x40 % 0x40, 0x80 + n % 0x40] := by
      simp [utf8Encode, hn, h1, h2, h3]
    have hval : (((0xF0 + n / 0x40000 - 0xF0) * 0x40 + (0x80 + n / 0x1000 % 0x40 - 0x80)) * 0x40 +
        (0x80 + n / 0x40 % 0x40 - 0x80)) * 0x40 + (0x80 + n % 0x40 - 0x80) = n := by omega
    -- no overlong form after F0, nothing above U+10FFFF after F4
    have hsecond : secondOfFour (0xF0 + n / 0x40000) (0x80 + n / 0x1000 % 0x40) := by
      simp only [secondOfFour, isContinuation]
      repeat' split
      all_goals
        simp only [Bool.and_eq_true, decide_eq_true_eq]
        omega
    rw [henc, List.cons_append, List.cons_append, List.cons_append, List.cons_append,
      List.nil_append, utf8DecodeFrom_four (by omega) hsecond (by simp [isContinuation]; omega)
        (by simp [isContinuation]; omega), hval, hback]
    rfl

end Utf8

/-- Decoding the UTF-8 bytes of characters gives them back, after those decoded before. -/
theorem utf8DecodeFrom_flatMap_encode (cs : List Char) :
    ∀ (pos : Nat) (acc : List Char),
      utf8DecodeFrom pos acc (cs.flatMap utf8Encode) = .ok (acc.reverse ++ cs) := by
  induction cs with
  | nil => intro pos acc; simp [utf8DecodeFrom]
  | cons c cs ih =>
    intro pos acc
    rw [List.flatMap_cons, utf8DecodeFrom_encode_append, ih]
    simp

/-- **UTF-8 round trip.** Decoding the bytes of a string gives the string back. -/
theorem utf8Decode_utf8Bytes (s : String) : utf8Decode (utf8Bytes s) = .ok s := by
  simp [utf8Decode, utf8Bytes, utf8DecodeFrom_flatMap_encode, Except.map]

/-- Every UTF-8 byte of a character is below 256. -/
theorem utf8Encode_lt (c : Char) : ∀ b ∈ utf8Encode c, b < 0x100 := by
  have hc : c.toNat < 0xD800 ∨ (0xDFFF < c.toNat ∧ c.toNat < 0x110000) := c.valid
  intro b hb
  simp only [utf8Encode] at hb
  repeat' split at hb
  all_goals
    simp only [List.mem_cons, List.not_mem_nil, or_false] at hb
    omega

theorem utf8Encode_of_lt {c : Char} (h : c.toNat < 0x80) : utf8Encode c = [c.toNat] := by
  simp [utf8Encode, h]

/-- The bytes of ASCII text are its code points. -/
theorem utf8Bytes_ofList_of_ascii {l : List Char} (h : ∀ c ∈ l, c.toNat < 0x80) :
    utf8Bytes (String.ofList l) = l.map Char.toNat := by
  simp only [utf8Bytes, String.toList_ofList]
  induction l with
  | nil => rfl
  | cons c l ih =>
    rw [List.flatMap_cons, utf8Encode_of_lt (h c List.mem_cons_self),
      ih fun d hd => h d (List.mem_cons_of_mem _ hd)]
    rfl

/-! ### Percent-encoding -/

theorem percentDecode_cons_of_ne {b : Nat} (hb : b ≠ 0x25) (rest : List Nat) :
    percentDecode (b :: rest) = b :: percentDecode rest := by
  match rest with
  | [] => rfl
  | [_] => rfl
  | _ :: _ :: _ => rw [percentDecode, if_neg hb]

theorem upperHexDigit_lt : ∀ n, n < 16 → (upperHexDigit n).toNat < 0x80 := by decide

theorem hexByteValue_upperHexDigit :
    ∀ n, n < 16 → hexByteValue (upperHexDigit n).toNat = some n := by decide

theorem escapeByte_ascii {b : Nat} (hb : b < 0x100) : ∀ d ∈ escapeByte b, d.toNat < 0x80 := by
  intro d hd
  simp only [escapeByte, List.mem_cons, List.not_mem_nil, or_false] at hd
  rcases hd with rfl | rfl | rfl
  · decide
  · exact upperHexDigit_lt _ (by omega)
  · exact upperHexDigit_lt _ (by omega)

/-- An escape decodes to its byte. -/
theorem percentDecode_escapeByte {b : Nat} (hb : b < 0x100) (rest : List Nat) :
    percentDecode ((escapeByte b).map Char.toNat ++ rest) = b :: percentDecode rest := by
  have hhi := hexByteValue_upperHexDigit (b / 16) (by omega)
  have hlo := hexByteValue_upperHexDigit (b % 16) (by omega)
  simp only [escapeByte, List.map_cons, List.map_nil, List.cons_append, List.nil_append]
  rw [percentDecode, if_pos (show '%'.toNat = 0x25 from rfl), hhi, hlo]
  dsimp only
  rw [show b / 16 * 16 + b % 16 = b by omega]

theorem percentDecode_escapeBytes (rest : List Nat) :
    ∀ bs : List Nat, (∀ b ∈ bs, b < 0x100) →
      percentDecode ((bs.flatMap escapeByte).map Char.toNat ++ rest) = bs ++ percentDecode rest
  | [], _ => rfl
  | b :: bs, h => by
    rw [List.flatMap_cons, List.map_append, List.append_assoc,
      percentDecode_escapeByte (h b List.mem_cons_self),
      percentDecode_escapeBytes rest bs fun x hx => h x (List.mem_cons_of_mem _ hx)]
    rfl

/-- A path writes every character in ASCII. -/
theorem encodePathChar_ascii (c : Char) : ∀ d ∈ encodePathChar c, d.toNat < 0x80 := by
  intro d hd
  unfold encodePathChar at hd
  split at hd
  next h =>
    simp only [List.mem_singleton] at hd
    subst hd
    simp only [Bool.and_eq_true, decide_eq_true_eq] at h
    exact h.1
  next =>
    obtain ⟨b, hb, hd⟩ := List.mem_flatMap.mp hd
    exact escapeByte_ascii (utf8Encode_lt c b hb) d hd

theorem encodePathChar_ne_nil (c : Char) : encodePathChar c ≠ [] := by
  unfold encodePathChar
  split
  · simp
  · have hne : utf8Encode c ≠ [] := by
      simp only [utf8Encode]
      repeat' split
      all_goals simp
    obtain ⟨b, bs, hbs⟩ := List.exists_cons_of_ne_nil hne
    simp [hbs, escapeByte]

/-- Decoding what a path writes for a character other than `%` gives its UTF-8 bytes. -/
theorem percentDecode_encodePathChar {c : Char} (hc : c ≠ '%') (rest : List Nat) :
    percentDecode ((encodePathChar c).map Char.toNat ++ rest) =
      utf8Encode c ++ percentDecode rest := by
  unfold encodePathChar
  split
  next h =>
    simp only [Bool.and_eq_true, decide_eq_true_eq] at h
    have hne : c.toNat ≠ 0x25 := fun h' => hc (Char.toNat_inj.mp h')
    rw [List.map_singleton, List.singleton_append, percentDecode_cons_of_ne hne,
      utf8Encode_of_lt h.1]
    rfl
  next => exact percentDecode_escapeBytes rest _ (utf8Encode_lt c)

/-- A piece of path as a URL path writes it. -/
def encodePiece (cs : List Char) : String := String.ofList (cs.flatMap encodePathChar)

theorem utf8Bytes_encodePiece (cs : List Char) :
    utf8Bytes (encodePiece cs) = (cs.flatMap encodePathChar).map Char.toNat :=
  utf8Bytes_ofList_of_ascii fun d hd => by
    obtain ⟨c, -, hd⟩ := List.mem_flatMap.mp hd
    exact encodePathChar_ascii c d hd

/-- **Percent round trip.** Decoding a written piece with no `%` gives its UTF-8 bytes. -/
theorem percentDecode_encodePiece {cs : List Char} (h : '%' ∉ cs) :
    percentDecode (utf8Bytes (encodePiece cs)) = cs.flatMap utf8Encode := by
  rw [utf8Bytes_encodePiece]
  induction cs with
  | nil => rfl
  | cons c cs ih =>
    have hc : c ≠ '%' := fun hc => h (hc ▸ List.mem_cons_self)
    rw [List.flatMap_cons, List.map_append, percentDecode_encodePathChar hc,
      ih fun h' => h (List.mem_cons_of_mem _ h'), List.flatMap_cons]

theorem decodeSegment_encodePiece {cs : List Char} (h : '%' ∉ cs) :
    UrlPath.decodeSegment (encodePiece cs) = .ok (String.ofList cs) := by
  have hbytes : cs.flatMap utf8Encode = utf8Bytes (String.ofList cs) := by
    simp [utf8Bytes]
  simp only [UrlPath.decodeSegment, percentDecode_encodePiece h, hbytes, utf8Decode_utf8Bytes]

theorem encodePiece_ne_empty {cs : List Char} (h : cs ≠ []) : encodePiece cs ≠ "" := by
  obtain ⟨c, cs, rfl⟩ := List.exists_cons_of_ne_nil h
  obtain ⟨d, ds, hds⟩ := List.exists_cons_of_ne_nil (encodePathChar_ne_nil c)
  intro hempty
  have hlist := congrArg String.toList hempty
  simp [encodePiece, hds] at hlist

/-! ### Dot pieces -/

theorem decodeSegment_parentSpellings :
    ∀ sp ∈ UrlPath.parentSpellings, (UrlPath.decodeSegment sp).toOption = some ".." := by
  decide +kernel

theorem decodeSegment_currentSpellings :
    ∀ sp ∈ UrlPath.currentSpellings, (UrlPath.decodeSegment sp).toOption = some "." := by
  decide +kernel

/-- A piece with no `%` is written as a dot spelling only if it is that dot piece. -/
theorem encodePiece_not_dot {cs : List Char} (h : '%' ∉ cs) (hparent : String.ofList cs ≠ "..")
    (hcurrent : String.ofList cs ≠ ".") :
    encodePiece cs ∉ UrlPath.parentSpellings ∧ encodePiece cs ∉ UrlPath.currentSpellings := by
  have hdecode : (UrlPath.decodeSegment (encodePiece cs)).toOption = some (String.ofList cs) := by
    rw [decodeSegment_encodePiece h]
    rfl
  refine ⟨fun hmem => hparent ?_, fun hmem => hcurrent ?_⟩
  · simpa [hdecode] using decodeSegment_parentSpellings _ hmem
  · simpa [hdecode] using decodeSegment_currentSpellings _ hmem

namespace UrlPath

theorem step_of_not_dot {path : List String} {piece : String} (last : Bool)
    (hparent : piece ∉ parentSpellings) (hcurrent : piece ∉ currentSpellings) :
    step path piece last = path ++ [piece] := by
  simp [step, hparent, hcurrent]

/-- Pieces that are not dot pieces are kept as they are. -/
theorem resolve_of_not_dot :
    ∀ (path pieces : List String), (∀ p ∈ pieces, p ∉ parentSpellings ∧ p ∉ currentSpellings) →
      resolve path pieces = path ++ pieces
  | path, [], _ => by simp [resolve]
  | path, [p], h => by
    obtain ⟨hparent, hcurrent⟩ := h p List.mem_cons_self
    rw [resolve, step_of_not_dot true hparent hcurrent]
  | path, p :: q :: rest, h => by
    obtain ⟨hparent, hcurrent⟩ := h p List.mem_cons_self
    rw [resolve.eq_3 _ _ _ (List.cons_ne_nil _ _), step_of_not_dot false hparent hcurrent,
      resolve_of_not_dot _ (q :: rest) fun x hx => h x (List.mem_cons_of_mem _ hx)]
    simp

/-! ### Cutting at separators -/

/-- Characters that are not separators join the current piece. -/
theorem cut_piecesFromBy_append {l : List Char} (hl : ∀ c ∈ l, isSeparator c = false) :
    ∀ (cur rest : List Char),
      cut.piecesFromBy cur (l ++ rest) = cut.piecesFromBy (l.reverse ++ cur) rest := by
  induction l with
  | nil => intro cur rest; rfl
  | cons c l ih =>
    intro cur rest
    rw [List.cons_append, cut.piecesFromBy, if_neg (by simp [hl c List.mem_cons_self]),
      ih (fun d hd => hl d (List.mem_cons_of_mem _ hd))]
    simp

/-- Cutting a text joined with slashes gives back its pieces, when none holds a separator. -/
theorem cut_joinWith :
    ∀ (segs : List String), segs ≠ [] → (∀ s ∈ segs, ∀ c ∈ s.toList, isSeparator c = false) →
      cut (joinWith "/" segs).toList = segs.map String.toList
  | [], hne, _ => absurd rfl hne
  | [s], _, h => by
    have hcut := cut_piecesFromBy_append (h s List.mem_cons_self) [] []
    rw [List.append_nil] at hcut
    simp [cut, joinWith, hcut, cut.piecesFromBy]
  | s :: t :: rest, _, h => by
    have hcut := cut_piecesFromBy_append (h s List.mem_cons_self) []
      ('/' :: (joinWith "/" (t :: rest)).toList)
    have ih := cut_joinWith (t :: rest) (List.cons_ne_nil _ _) fun x hx => h x (List.mem_cons_of_mem _ hx)
    simp only [cut] at ih ⊢
    rw [joinWith.eq_3 _ _ _ (List.cons_ne_nil _ _), String.toList_append, String.toList_append,
      List.append_assoc, show ("/" : String).toList = ['/'] from rfl, List.singleton_append, hcut,
      cut.piecesFromBy, if_pos (by decide), ih]
    simp

end UrlPath

/-- Every character of a text joined by `sep` is one of `sep` or of a piece. -/
theorem mem_joinWith_toList {sep : String} {c : Char} :
    ∀ {segs : List String}, c ∈ (joinWith sep segs).toList → c ∈ sep.toList ∨ ∃ s ∈ segs, c ∈ s.toList
  | [], h => by simp [joinWith] at h
  | [s], h => .inr ⟨s, List.mem_cons_self, by simpa [joinWith] using h⟩
  | s :: t :: rest, h => by
    rw [joinWith.eq_3 _ _ _ (List.cons_ne_nil _ _), String.toList_append, String.toList_append,
      List.mem_append, List.mem_append] at h
    rcases h with (h | h) | h
    · exact .inr ⟨s, List.mem_cons_self, h⟩
    · exact .inl h
    · rcases mem_joinWith_toList h with h | ⟨s', hs', h⟩
      · exact .inl h
      · exact .inr ⟨s', List.mem_cons_of_mem _ hs', h⟩

/-! ### Plain segments -/

/-- The characters that reading a path stops at (`?`, `#`), cuts at (`/`, `\`), drops (tab,
line feed, carriage return) or decodes (`%`). -/
def pathSyntaxChars : List Char := ['/', '\\', '?', '#', '%', '\t', '\n', '\r']

/-- A segment that a path carries unchanged: not empty, not a dot piece, and with no
character of `pathSyntaxChars`. -/
def plainSegment (s : String) : Bool :=
  !s.isEmpty && s != "." && s != ".." && s.toList.all fun c => !pathSyntaxChars.contains c

theorem plainSegment_spec {s : String} (h : plainSegment s) :
    s ≠ "" ∧ s ≠ "." ∧ s ≠ ".." ∧ ∀ c ∈ s.toList, c ∉ pathSyntaxChars := by
  simp only [plainSegment, Bool.and_eq_true, String.isEmpty_eq_false_iff,
    bne_iff_ne, ne_eq, List.all_eq_true, Bool.not_eq_eq_eq_not, Bool.not_true,
    List.contains_eq_mem, decide_eq_false_iff_not] at h
  exact ⟨h.1.1.1, h.1.1.2, h.1.2, h.2⟩

/-- Reading keeps every character of a text joined from plain segments: none is a `?`, a
`#`, a tab or a line break. -/
theorem kept_of_mem_joinSegments {segs : List String} (hplain : ∀ s ∈ segs, plainSegment s)
    {c : Char} (hc : c ∈ (joinSegments segs).toList) :
    c ≠ '?' ∧ c ≠ '#' ∧ c ≠ '\t' ∧ c ≠ '\n' ∧ c ≠ '\r' := by
  simp only [joinSegments, String.toList_append, List.mem_append] at hc
  have hreserved : c = '/' ∨ c ∉ pathSyntaxChars := by
    rcases hc with hc | hc
    · exact .inl (by simpa using hc)
    · rcases mem_joinWith_toList hc with hc | ⟨s, hs, hc⟩
      · exact .inl (by simpa using hc)
      · exact .inr ((plainSegment_spec (hplain s hs)).2.2.2 c hc)
  rcases hreserved with rfl | hreserved
  · decide
  · simp only [pathSyntaxChars, List.mem_cons, List.not_mem_nil, or_false, not_or] at hreserved
    obtain ⟨-, -, hquery, hhash, -, htab, hlf, hcr⟩ := hreserved
    exact ⟨hquery, hhash, htab, hlf, hcr⟩

/-- The pieces read from a path joined from plain segments are the segments as a path writes
them. -/
theorem encodedPieces_joinSegments {segs : List String} (hne : segs ≠ [])
    (hplain : ∀ s ∈ segs, plainSegment s) :
    UrlPath.encodedPieces (joinSegments segs) = segs.map fun s => encodePiece s.toList := by
  have hkept := fun c hc => kept_of_mem_joinSegments hplain (c := c) hc
  have htake : (joinSegments segs).toList.takeWhile (fun c => c != '?' && c != '#') =
      (joinSegments segs).toList :=
    List.takeWhile_eq_self_iff.mpr fun c hc => by simp [(hkept c hc).1, (hkept c hc).2.1]
  have hfilter : (joinSegments segs).toList.filter
      (fun c => !(c == '\t' || c == '\n' || c == '\r')) = (joinSegments segs).toList :=
    List.filter_eq_self.mpr fun c hc => by
      simp [(hkept c hc).2.2.1, (hkept c hc).2.2.2.1, (hkept c hc).2.2.2.2]
  have hsep : ∀ s ∈ segs, ∀ c ∈ s.toList, UrlPath.isSeparator c = false := by
    intro s hs c hc
    have hc' := (plainSegment_spec (hplain s hs)).2.2.2 c hc
    simp only [pathSyntaxChars, List.mem_cons, List.not_mem_nil, or_false, not_or] at hc'
    obtain ⟨hslash, hbackslash, -⟩ := hc'
    simp [UrlPath.isSeparator, hslash, hbackslash]
  have hdots : ∀ p ∈ segs.map (fun s => encodePiece s.toList),
      p ∉ UrlPath.parentSpellings ∧ p ∉ UrlPath.currentSpellings := by
    simp only [List.mem_map]
    rintro p ⟨s, hs, rfl⟩
    obtain ⟨-, hcurrent, hparent, hchars⟩ := plainSegment_spec (hplain s hs)
    refine encodePiece_not_dot (fun h => hchars '%' h (by simp [pathSyntaxChars])) ?_ ?_ <;>
      simpa only [String.ofList_toList]
  have hjoin : (joinSegments segs).toList = '/' :: (joinWith "/" segs).toList := by
    simp [joinSegments]
  simp only [UrlPath.encodedPieces]
  rw [htake, hfilter, hjoin]
  simp only [UrlPath.isSeparator, beq_self_eq_true, Bool.true_or, if_true]
  rw [UrlPath.cut_joinWith segs hne hsep, List.map_map, UrlPath.resolve_of_not_dot _ _ ?_]
  · rfl
  · simpa [Function.comp_def, encodePiece] using hdots

/-- Decoding the written segments gives the segments. -/
theorem mapM_decodeSegment_encodePiece :
    ∀ segs : List String, (∀ s ∈ segs, '%' ∉ s.toList) →
      (segs.map fun s => encodePiece s.toList).mapM UrlPath.decodeSegment = .ok segs
  | [], _ => rfl
  | s :: segs, h => by
    rw [List.map_cons, List.mapM_cons, decodeSegment_encodePiece (h s List.mem_cons_self),
      mapM_decodeSegment_encodePiece segs fun x hx => h x (List.mem_cons_of_mem _ hx),
      String.ofList_toList]
    rfl

/-! ### Absolute URLs -/

/-- Trimming the end of a list keeps its first element when that is not trimmed. -/
theorem reverse_dropWhile_append_singleton {p : Char → Bool} {a : Char} (ha : p a = false)
    (l : List Char) : ∃ t, ((l ++ [a]).dropWhile p).reverse = a :: t := by
  rw [List.dropWhile_append]
  split
  · exact ⟨[], by simp [List.dropWhile, ha]⟩
  · exact ⟨(l.dropWhile p).reverse, by simp⟩

/-- A text that starts with a slash is not an absolute URL: no scheme starts with one. -/
theorem Url.isAbsoluteUrl_slash (toAscii : DomainToAscii) (rest : String) :
    Url.isAbsoluteUrl toAscii ("/" ++ rest) = false := by
  have hslash : ("/" ++ rest).toList = '/' :: rest.toList := by simp
  have hblank : decide ('/'.toNat ≤ 0x20) = false := by decide
  -- trimming blanks from both ends leaves the slash in front
  obtain ⟨t, ht⟩ := reverse_dropWhile_append_singleton (p := fun c => decide (c.toNat ≤ 0x20))
    hblank rest.toList.reverse
  simp only [Url.isAbsoluteUrl, hslash, List.dropWhile_cons, hblank, Bool.false_eq_true, if_false,
    List.reverse_cons, ht]
  simp [Url.splitScheme]

/-! ### The round trip -/

/-- **Joined plain segments read back as themselves.** Writing plain segments as a path and
reading the path gives the same segments. -/
theorem normalizePath_joinSegments (toAscii : DomainToAscii) (segs : List String)
    (hplain : ∀ s ∈ segs, plainSegment s) : normalizePath toAscii (joinSegments segs) = .ok segs := by
  rcases segs with _ | ⟨s, segs⟩
  · rfl
  · have hne : s :: segs ≠ [] := (List.cons_ne_nil _ _)
    have hnonempty : ∀ p ∈ (s :: segs).map (fun s => encodePiece s.toList), !p.isEmpty := by
      simp only [List.mem_map]
      rintro p ⟨x, hx, rfl⟩
      have hxne := (plainSegment_spec (hplain x hx)).1
      simpa using encodePiece_ne_empty (by simpa using hxne)
    have hpercent : ∀ x ∈ s :: segs, '%' ∉ x.toList := fun x hx h =>
      (plainSegment_spec (hplain x hx)).2.2.2 '%' h (by simp [pathSyntaxChars])
    rw [normalizePath, joinSegments, Url.isAbsoluteUrl_slash, ← joinSegments,
      encodedPieces_joinSegments hne hplain, List.filter_eq_self.mpr hnonempty]
    exact mapM_decodeSegment_encodePiece _ hpercent

end SwitchAdmin
