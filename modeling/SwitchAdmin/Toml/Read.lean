import SwitchAdmin.Toml.Values

/-!
# Reading a TOML document

`readDocument` reads a whole document into its root table. After an optional byte order
mark and blanks, the document is a sequence of lines, each read by its first byte: `#`
starts a comment, `[` a header, a line end an empty line, anything else a key-value
pair; blanks may follow. A key-value pair or header must end its line, after blanks and
an optional comment.

Failures become a `TomlError` pointing at the character where reading stopped. A
conflict found when a pair or header is put in place points at the start of the pair or
header; one found only when the last table is put in place, at the very end, points
nowhere.
-/

namespace SwitchAdmin

namespace Toml

open Step

/-- Reads a key-value pair and its line end, and puts the pair into the current table. -/
def keyval (b : Builder) : Step Builder := do
  let start ← here
  let keys ← key
  let fuel := 4 * (← room)
  let v ← cut do
    expecting [.char '.', .char '='] (byte (code '='))
    blanks
    let v ← value 0 fuel
    lineTrailingExpected
    return v
  let (path, k) := splitKey keys
  match b.onKeyval path k v with
  | .ok b' => return b'
  | .error e => throw { pos := start, cause := some e.message }

/-- Reads a header: the bracketed key, then the line end, with what is expected there. -/
def header (opening closing : List Nat) (closingText : String) : Step (List Key × Span) := do
  let (keys, _, span) ← recognize do
    literal opening
    let keys ← cut key
    cut (expecting [.char '.', .text closingText] (literal closing))
    return keys
  cut lineTrailingExpected
  return (keys, span)

/-- Reads a header line and starts its table. -/
def tableHeader (b : Builder) : Step Builder :=
  label "table header" do
    let start ← here
    let next ← peekTwo
    if next.length < 2 then miss
    let started ←
      if next == [91, 91] then do
        let (keys, span) ← header [91, 91] [93, 93] "]]"
        pure (b.startArrayTable keys span)
      else do
        let (keys, span) ← header [91] [93] "]"
        pure (b.startTable keys span)
    match started with
    | .ok b' => return b'
    | .error e => throw { pos := start, cause := some e.message }

/-- Reads the lines of a document, at most `fuel` of them. -/
def documentLines : Nat → Builder → Step Builder
  | 0, b => return b
  | fuel + 1, b => do
    match ← peek with
    | none => return b
    | some 35 =>
      cut (do comment; lineEnd)
      blanks
      documentLines fuel b
    | some 91 =>
      let b' ← cut (tableHeader b)
      blanks
      documentLines fuel b'
    | some 10 | some 13 =>
      match ← attempt newline with
      | none => return b
      | some _ =>
        blanks
        documentLines fuel b
    | some _ =>
      let b' ← cut (keyval b)
      blanks
      documentLines fuel b'

/-- The byte order mark. -/
def byteOrderMark : List Nat := [0xEF, 0xBB, 0xBF]

/-- Reads a whole document into a builder. -/
def document : Step Builder := do
  let _ ← attempt (literal byteOrderMark)
  blanks
  let b ← documentLines (← room) {}
  eof
  return b

/-- Reads a TOML document into its root table. -/
def readDocument (text : String) : Except TomlError Node :=
  match document ⟨utf8Bytes text, 0⟩ with
  | .error f => .error (TomlError.ofFailure text f)
  | .ok (b, _) =>
    match b.finish with
    | .ok root => .ok root
    | .error e => .error { message := e.message }

end Toml

end SwitchAdmin
