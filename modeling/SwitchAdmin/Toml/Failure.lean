import SwitchAdmin.Toml.Document
import SwitchAdmin.Text.Quoted
import SwitchAdmin.Text.Utf8
import SwitchAdmin.Text.Pieces

/-!
# Why a TOML document is refused

A reading step that fails leaves a `Failure`: the byte offset where reading stopped, the
contexts the failure passed through on its way out (innermost first), and possibly a
cause. A failure is either soft, when another alternative may still be tried, or hard
(`cut`), when the alternatives are over.

The message of a failure names the innermost label (`invalid table header`), then every
expected item in the order they were added (`expected ``.``, ``]``), then the cause, one per
line.

A `TomlError` is what a reader of the document finally reports: a message, the document
text, the keys leading to the offending value, and the span it points at.
`TomlError.render` writes the message under a snippet of the line with carets below the
span.
-/

namespace SwitchAdmin

namespace Toml

/-- Something a failed step expected. -/
inductive Expected where
  /-- One character. -/
  | char (c : Char)
  /-- A fixed text. -/
  | text (s : String)
  /-- A description in words. -/
  | description (s : String)
deriving DecidableEq, Inhabited

/-- How an expected item is written: characters and texts between backticks, a newline
in words. -/
def Expected.show : Expected → String
  | .char '\n' => "newline"
  | .char '`' => "'`'"
  | .char c =>
    if c.toNat < 0x20 || c.toNat = 0x7F then "`" ++ quoteChar c ++ "`" else s!"`{c}`"
  | .text s => s!"`{s}`"
  | .description s => s

/-- What a failure passed through on its way out. -/
inductive Context where
  /-- The name of the construct being read. -/
  | label (s : String)
  /-- An item that would have been accepted. -/
  | expected (e : Expected)
deriving DecidableEq, Inhabited

/-- A conflict found while putting a read value into the document, or a value out of
range. -/
inductive Conflict where
  /-- A key defined twice; the table is named when known (the empty path is the root). -/
  | duplicateKey (key : String) (table : Option (List String))
  /-- A dotted key or header that goes through a value that is not a table. -/
  | extendsNonTable (path : List String) (found : String)
  /-- A number, date or code point outside its range. -/
  | outOfRange
  /-- Nesting deeper than the reader follows. -/
  | tooDeep
deriving DecidableEq, Inhabited

/-- The words of a conflict. -/
def Conflict.message : Conflict → String
  | .duplicateKey key none => s!"duplicate key `{key}`"
  | .duplicateKey key (some []) => s!"duplicate key `{key}` in document root"
  | .duplicateKey key (some path) =>
    let table := joinWith "." path
    s!"duplicate key `{key}` in table `{table}`"
  | .extendsNonTable path found =>
    let dotted := joinWith "." path
    s!"dotted key `{dotted}` attempted to extend non-table type ({found})"
  | .outOfRange => "value is out of range"
  | .tooDeep => "recursion limit exceeded"

/-- A failed reading step. -/
structure Failure where
  /-- Whether the alternatives are over. -/
  cut : Bool := false
  /-- The contexts passed through, innermost first. -/
  contexts : List Context := []
  /-- What went wrong, when more is known than the contexts say. -/
  cause : Option String := none
  /-- The byte offset where reading stopped. -/
  pos : Nat
deriving Inhabited

namespace Failure

/-- The innermost label, if any. -/
def label? (f : Failure) : Option String :=
  f.contexts.findSome? fun | .label s => some s | .expected _ => none

/-- The expected items, in the order they were added. -/
def expected (f : Failure) : List Expected :=
  f.contexts.filterMap fun | .expected e => some e | .label _ => none

/-- The message: the label, the expected items and the cause, one per line. -/
def message (f : Failure) : String :=
  let labelLine := f.label?.map fun l => "invalid " ++ l
  let expectedLine :=
    if f.expected.isEmpty then none
    else some ("expected " ++ joinWith ", " (f.expected.map Expected.show))
  joinWith "\n" ([labelLine, expectedLine, f.cause].filterMap id)

end Failure

/-- What a reader of a document reports. -/
structure TomlError where
  /-- What is wrong. -/
  message : String
  /-- The document text, when known. -/
  raw : Option String := none
  /-- The keys leading to the offending value, outermost first. -/
  keys : List String := []
  /-- The bytes the error points at. -/
  span : Option Span := none
deriving Inhabited

/-- Whether byte `b` continues a multi-byte character. -/
def continuesChar (b : Nat) : Bool := 0x80 ≤ b && b < 0xC0

/-- The length in bytes of the character that starts with byte `b`. -/
def charWidth (b : Nat) : Nat :=
  if b < 0x80 then 1 else if b < 0xE0 then 2 else if b < 0xF0 then 3 else 4

/-- Moves an offset back to the start of the character it falls in. -/
def charStart (bytes : List Nat) : Nat → Nat → Nat
  | 0, pos => pos
  | fuel + 1, pos =>
    match pos with
    | 0 => 0
    | p + 1 =>
      if continuesChar (bytes.getD (p + 1) 0) then charStart bytes fuel p else p + 1

/-- The span a reading failure points at: the character at the failure's offset, empty at
the end of the document. -/
def failureSpan (bytes : List Nat) (pos : Nat) : Span :=
  let start := charStart bytes (pos + 1) pos
  match bytes.drop start with
  | [] => ⟨start, start⟩
  | b :: _ => ⟨start, start + charWidth b⟩

/-- The error for a failed reading of `text`. -/
def TomlError.ofFailure (text : String) (f : Failure) : TomlError :=
  { message := f.message, raw := some text, span := some (failureSpan (utf8Bytes text) f.pos) }

/-- The zero-based line and column of byte `index`. The column counts characters, except
that an index at the first byte of a multi-byte character counts bytes; an index past
the end is counted from the last byte. -/
def linePosition (bytes : List Nat) (index : Nat) : Nat × Nat :=
  if bytes.isEmpty then (0, index)
  else
    let safe := min index (bytes.length - 1)
    let before := bytes.take safe
    let lineStart := before.length - (before.reverse.takeWhile (· ≠ 10)).length
    let line := (bytes.take lineStart).count 10
    let piece := (bytes.take (safe + 1)).drop lineStart
    let column :=
      match utf8Decode piece with
      | .ok s => s.length - 1
      | .error _ => safe - lineStart
    (line, column + (index - safe))

/-- Spaces. -/
def spaces (n : Nat) : String := String.ofList (List.replicate n ' ')

/-- The error as a reader shows it: a snippet of the line with carets under the span,
then the message. Without text or span, only the message. -/
def TomlError.render (e : TomlError) : String :=
  match e.raw, e.span with
  | some text, some span =>
    let bytes := utf8Bytes text
    let (line, column) := linePosition bytes span.start
    let number := toString (line + 1)
    let gutter := spaces (number.length + 1)
    let content := (piecesOf text '\n').getD line ""
    let width := min (span.stop - span.start) ((utf8Bytes content).length - column)
    s!"TOML parse error at line {line + 1}, column {column + 1}\n" ++
      gutter ++ "|\n" ++
      number ++ " | " ++ content ++ "\n" ++
      gutter ++ "|" ++ spaces (column + 1) ++ String.ofList (List.replicate (max width 1) '^') ++
      "\n" ++ e.message ++ "\n"
  | _, _ => e.message ++ "\n"

/-- The error in the debugging notation of its fields. -/
def TomlError.debug (e : TomlError) : String :=
  let raw := match e.raw with
    | some t => "Some(" ++ quoted t ++ ")"
    | none => "None"
  let span := match e.span with
    | some s => s!"Some({s.start}..{s.stop})"
    | none => "None"
  "TomlError \x7b message: " ++ quoted e.message ++ ", raw: " ++ raw ++ ", keys: [" ++
    joinWith ", " (e.keys.map quoted) ++ "], span: " ++ span ++ " \x7d"

end Toml

end SwitchAdmin
