import SwitchAdmin.Toml.Failure

/-!
# Reading steps over bytes

A document is read as its UTF-8 bytes. A `Step` reads from a `Cursor` (the bytes left and
their offset) and either gives a result with the cursor moved on, or a `Failure` that
records the offset where it stopped.

The combinators follow one discipline, which decides where a failure points:

* a failing step does not move back, except where said: `attempt`, `firstOf` and the
  loops go back to where the failed try began and carry on, and a `Step.check` that
  refuses a result goes back to where its step began;
* a soft failure lets `attempt`, `firstOf` and the loops carry on; a hard one (`cut`)
  goes all the way out;
* `Step.context` adds a context to every failure passing through.

The character classes are those of the TOML grammar, on bytes; every byte of a multi-byte
character counts as non-ASCII.
-/

namespace SwitchAdmin

namespace Toml

/-- Where reading stands: the bytes still to read and the offset of the first of them. -/
structure Cursor where
  /-- The bytes still to read. -/
  rest : List Nat
  /-- The offset of the first of them in the document. -/
  pos : Nat
deriving Inhabited

/-- A reading step. -/
abbrev Step (α : Type) := StateT Cursor (Except Failure) α

namespace Step

/-- The offset reached. -/
def here : Step Nat := do return (← get).pos

/-- The next byte, without reading it. -/
def peek : Step (Option Nat) := do return (← get).rest.head?

/-- The next two bytes, without reading them. -/
def peekTwo : Step (List Nat) := do return (← get).rest.take 2

/-- A soft failure here, with nothing more to say. -/
def miss {α : Type} : Step α := do throw { pos := (← get).pos }

/-- A soft failure here with a cause. -/
def missBecause {α : Type} (cause : String) : Step α := do
  throw { pos := (← get).pos, cause := some cause }

/-- Reads one byte, whatever it is; a soft failure at the end. -/
def anyByte : Step Nat := do
  let c ← get
  match c.rest with
  | b :: rest =>
    set (Cursor.mk rest (c.pos + 1))
    return b
  | [] => miss

/-- Reads one byte that satisfies `p`; a soft failure, not moving, otherwise. -/
def byteWhere (p : Nat → Bool) : Step Nat := do
  let c ← get
  match c.rest with
  | b :: rest =>
    if p b then
      set (Cursor.mk rest (c.pos + 1))
      return b
    else miss
  | [] => miss

/-- Reads the byte `b`. -/
def byte (b : Nat) : Step Unit := do let _ ← byteWhere (· == b)

/-- Reads the bytes `bs`, all or nothing. -/
def literal (bs : List Nat) : Step Unit := do
  let c ← get
  if bs.isPrefixOf c.rest then set (Cursor.mk (c.rest.drop bs.length) (c.pos + bs.length))
  else miss

/-- Succeeds at the end of the document only. -/
def eof : Step Unit := do
  if (← get).rest.isEmpty then return () else miss

/-- Reads the longest run of bytes satisfying `p`, possibly empty. -/
def takeWhile (p : Nat → Bool) : Step (List Nat) := do
  let c ← get
  let run := c.rest.takeWhile p
  set (Cursor.mk (c.rest.drop run.length) (c.pos + run.length))
  return run

/-- Reads a run of at least `lo` and at most `hi` bytes satisfying `p`, as long as
possible; a soft failure, not moving, when fewer than `lo` are there. -/
def takeBetween (lo hi : Nat) (p : Nat → Bool) : Step (List Nat) := do
  let c ← get
  let run := (c.rest.takeWhile p).take hi
  if run.length < lo then miss
  else
    set (Cursor.mk (c.rest.drop run.length) (c.pos + run.length))
    return run

/-- Reads a non-empty run of bytes satisfying `p`. -/
def takeWhile1 (p : Nat → Bool) : Step (List Nat) := do
  let c ← get
  let run := c.rest.takeWhile p
  if run.isEmpty then miss
  else
    set (Cursor.mk (c.rest.drop run.length) (c.pos + run.length))
    return run

/-- Makes every failure of `s` hard. -/
def cut {α : Type} (s : Step α) : Step α := fun c =>
  match s c with
  | .error f => .error { f with cut := true }
  | .ok r => .ok r

/-- Adds a context to every failure of `s`. -/
def context {α : Type} (ctx : Context) (s : Step α) : Step α := fun c =>
  match s c with
  | .error f => .error { f with contexts := f.contexts ++ [ctx] }
  | .ok r => .ok r

/-- Adds a label to every failure of `s`. -/
def label {α : Type} (name : String) (s : Step α) : Step α := context (.label name) s

/-- Adds expected items to every failure of `s`, in order. -/
def expecting {α : Type} (items : List Expected) (s : Step α) : Step α :=
  items.foldl (fun acc e => context (.expected e) acc) s

/-- Tries `s`; on a soft failure, goes back and gives `none`. -/
def attempt {α : Type} (s : Step α) : Step (Option α) := fun c =>
  match s c with
  | .ok (a, c') => .ok (some a, c')
  | .error f => if f.cut then .error f else .ok (none, c)

/-- Tries `s`, and on a soft failure goes back and reads `t` instead; when both fail
softly, the failure is that of `t`. -/
def orElse {α : Type} (s t : Step α) : Step α := fun c =>
  match s c with
  | .ok r => .ok r
  | .error f => if f.cut then .error f else t c

/-- Tries the steps in order, as `orElse` does. -/
def firstOf {α : Type} : List (Step α) → Step α
  | [] => miss
  | [s] => s
  | s :: rest => orElse s (firstOf rest)

/-- Looks at what `s` would read, without moving, in success and in failure. -/
def ahead {α : Type} (s : Step α) : Step α := fun c =>
  match s c with
  | .ok (a, _) => .ok (a, c)
  | .error f => .error { f with pos := c.pos }

/-- Reads with `s` and keeps the result when `ok` accepts it; otherwise goes back to
where `s` began and fails softly with the cause `ok` gives. -/
def check {α β : Type} (s : Step α) (ok : α → Except (Option String) β) : Step β := fun c =>
  match s c with
  | .error f => .error f
  | .ok (a, c') =>
    match ok a with
    | .ok b => .ok (b, c')
    | .error cause => .error { pos := c.pos, cause := cause }

/-- Reads with `s` and also gives the bytes it read and their span. -/
def recognize {α : Type} (s : Step α) : Step (α × List Nat × Span) := fun c =>
  match s c with
  | .error f => .error f
  | .ok (a, c') =>
    let n := c'.pos - c.pos
    .ok ((a, c.rest.take n, ⟨c.pos, c'.pos⟩), c')

/-- Reads with `s` as often as it succeeds (at most `fuel` times), going back before the
first soft failure. -/
def many {α : Type} (s : Step α) : Nat → Step (List α)
  | 0 => return []
  | fuel + 1 => fun c =>
    match s c with
    | .error f => if f.cut then .error f else .ok ([], c)
    | .ok (a, c') =>
      if c'.pos ≤ c.pos then .ok ([a], c')
      else
        match many s fuel c' with
        | .ok (as, c'') => .ok (a :: as, c'')
        | .error f => .error f

/-- Reads with `s` as often as it succeeds, at least once. -/
def many1 {α : Type} (s : Step α) (fuel : Nat) : Step (List α) := do
  let a ← s
  let as ← many s fuel
  return a :: as

/-- The fuel for a loop over the rest of the document: one more than the bytes left. -/
def room : Step Nat := do return (← get).rest.length + 1

/-- Reads `s`, then `sep` and `s` again as long as both succeed, going back before a
separator whose item fails softly. -/
def separated1 {α : Type} (s : Step α) (sep : Step Unit) : Nat → Step (List α)
  | 0 => do let a ← s; return [a]
  | fuel + 1 => fun c =>
    match s c with
    | .error f => .error f
    | .ok (a, c') =>
      match (do sep; separated1 s sep fuel : Step (List α)) c' with
      | .ok (as, c'') => .ok (a :: as, c'')
      | .error f => if f.cut then .error f else .ok ([a], c')

end Step

/-! ### Character classes -/

/-- Space or tab. -/
def isBlank (b : Nat) : Bool := b == 0x20 || b == 0x09

/-- A byte of a non-ASCII character. -/
def isNonAscii (b : Nat) : Bool := 0x80 ≤ b && b ≤ 0xFF

/-- A byte that may stand in a comment. -/
def isCommentByte (b : Nat) : Bool := b == 0x09 || (0x20 ≤ b && b ≤ 0x7E) || isNonAscii b

/-- A byte that stands for itself in a basic string. -/
def isBasicUnescaped (b : Nat) : Bool :=
  isBlank b || b == 0x21 || (0x23 ≤ b && b ≤ 0x5B) || (0x5D ≤ b && b ≤ 0x7E) || isNonAscii b

/-- A byte that may stand in a literal string. -/
def isLiteralByte (b : Nat) : Bool :=
  b == 0x09 || (0x20 ≤ b && b ≤ 0x26) || (0x28 ≤ b && b ≤ 0x7E) || isNonAscii b

/-- A decimal digit. -/
def isDigit (b : Nat) : Bool := 0x30 ≤ b && b ≤ 0x39

/-- A hexadecimal digit. -/
def isHexDigit (b : Nat) : Bool :=
  isDigit b || (0x41 ≤ b && b ≤ 0x46) || (0x61 ≤ b && b ≤ 0x66)

/-- The value of a hexadecimal digit byte. -/
def hexDigitValue (b : Nat) : Nat :=
  if isDigit b then b - 0x30 else if b ≤ 0x46 then b - 0x41 + 10 else b - 0x61 + 10

/-- A byte of a bare key: letters, digits, `-` and `_`. -/
def isBareKeyByte (b : Nat) : Bool :=
  (0x41 ≤ b && b ≤ 0x5A) || (0x61 ≤ b && b ≤ 0x7A) || isDigit b || b == 0x2D || b == 0x5F

/-- The code of an ASCII character. -/
def code (c : Char) : Nat := c.toNat

/-! ### Blanks, comments and line ends -/

open Step

/-- Reads spaces and tabs. -/
def blanks : Step Unit := do let _ ← takeWhile isBlank

/-- Reads a line feed, or a carriage return and a line feed. -/
def newline : Step Unit := do
  let b ← anyByte
  if b == 10 then return ()
  else if b == 13 then byte 10
  else miss

/-- Reads a comment up to, not including, its line end. -/
def comment : Step Unit := do
  byte (code '#')
  let _ ← takeWhile isCommentByte

/-- Reads a line end or the end of the document. -/
def lineEnd : Step Unit := orElse newline eof

/-- Reads what may follow a value or header on its line: blanks, a comment, the line end. -/
def lineTrailing : Step Unit := do
  blanks
  let _ ← attempt comment
  lineEnd

/-- `lineTrailing`, with what it expects when it fails. -/
def lineTrailingExpected : Step Unit :=
  expecting [.char '\n', .char '#'] lineTrailing

/-- Reads blanks, comments and line ends, as between the items of an array. -/
def blanksCommentsNewlines : Nat → Step Unit
  | 0 => return ()
  | fuel + 1 => do
    let start ← here
    blanks
    match ← peek with
    | some 35 =>
      comment
      newline
    | some 10 => newline
    | some 13 => newline
    | _ => return ()
    if (← here) == start then return () else blanksCommentsNewlines fuel

/-- Reads blanks and line ends. -/
def blanksNewlines (fuel : Nat) : Step Unit := do
  let _ ← many (orElse newline (do let _ ← takeWhile1 isBlank)) fuel

end Toml

end SwitchAdmin
