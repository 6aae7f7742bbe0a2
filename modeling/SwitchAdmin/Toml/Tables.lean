import SwitchAdmin.Toml.Failure

/-!
# Putting values into tables

Keys with dots and headers name tables by paths. `descend` walks a path down from a
table, making the missing tables on the way (they are implicit, and dotted when made by a
dotted key), entering the last table of an array of tables, and refusing to go through a
value. It then rebuilds the tables around whatever the walk's last step did.

The rules on defining a table twice live here:

* a dotted key may not go into a table that was defined by its own header or braces;
* a plain key may not be put into a table made by dotted keys, nor a dotted key into one
  made by a header on the way;
* a header may take over a table made on the way by a longer header, but not one made by
  dotted keys or defined before;
* a double-bracket header adds a table to an array of tables, and refuses any other value
  under its name.

`Builder` reads a document header by header: the table of the last header stays apart
(`current`) until the next header, and is then put in place (`finalize`).
-/

namespace SwitchAdmin

namespace Toml

/-- The names of keys. -/
def names (path : List Key) : List String := path.map Key.name

/-- The conflict of defining the last key of `path` again. -/
def redefined (path : List Key) : Conflict :=
  .duplicateKey ((path.getLast?.map Key.raw).getD "") (some (names path.dropLast))

/-- Walks `path` down from a table of kind `kind` with entries `es`, `walked` being the
keys already walked, then applies `last` to the table reached and rebuilds the entries.
Tables written with braces are entered when `inline` holds, the others when it does not;
the tables made on the way are of the same sort. -/
def descend {α : Type} (inline dotted : Bool)
    (last : TableKind → Entries → Except Conflict (Entries × α)) :
    List Key → List Key → TableKind → Entries → Except Conflict (Entries × α)
  | _, [], kind, es => last kind es
  | walked, k :: ks, _, es =>
    let walked' := walked ++ [k]
    match lookup k.name es with
    | none => do
      let made : TableKind := ⟨inline, true, dotted⟩
      let (inner, a) ← descend inline dotted last walked' ks made []
      return (es ++ [(k, .table made inner none)], a)
    | some (.table kind inner span) =>
      if kind.inline != inline then .error (.extendsNonTable (names walked') (Node.typeName (.table kind inner span)))
      else if dotted && !kind.implicit then .error (.duplicateKey k.name none)
      else do
        let (inner', a) ← descend inline dotted last walked' ks kind inner
        return (replaceEntry k.name (.table kind inner' span) es, a)
    | some (.tables items span) =>
      match items.getLast? with
      | some (.table kind inner tspan) => do
        let (inner', a) ← descend inline dotted last walked' ks kind inner
        return (replaceEntry k.name (.tables (items.dropLast ++ [.table kind inner' tspan]) span) es, a)
      | _ => .error (.extendsNonTable (names walked') "array of tables")
    | some other => .error (.extendsNonTable (names walked') other.typeName)

/-- Puts `value` under `key` after walking `path` of dotted keys, in a table of kind
`kind` with entries `es`. A plain key goes into the table itself, which must not be
dotted; a dotted key must end in a dotted table. `table` names the table for the error
about a key already there. -/
def putDotted (inline : Bool) (table : Option (List String)) (path : List Key) (key : Key)
    (value : Node) (kind : TableKind) (es : Entries) : Except Conflict Entries := do
  let (es', _) ← descend inline true (fun kind es =>
      if kind.dotted == path.isEmpty then .error (.duplicateKey key.name none)
      else match lookup key.name es with
        | some _ => .error (.duplicateKey key.name table)
        | none => .ok (es ++ [(key, value)], ()))
    [] path kind es
  return es'

/-- The table of an inline table's key-value pairs, in order. -/
def tableFromPairs (pairs : List (List Key × Key × Node)) : Except Conflict Entries :=
  pairs.foldlM (fun es (path, key, value) => putDotted true none path key value .braces es) []

/-- The span from the start of the first table to the end of the last, when both have
spans. -/
def tablesSpan (items : List Node) : Option Span :=
  match items.head?.bind Node.span?, items.getLast?.bind Node.span? with
  | some first, some last => some ⟨first.start, last.stop⟩
  | _, _ => none

/-- A document being read: the tables put in place so far, and the table of the last
header with its path. -/
structure Builder where
  /-- The entries of the document root. -/
  root : Entries := []
  /-- The entries of the table of the last header (the root before any header). -/
  current : Entries := []
  /-- Where the table of the last header stands, stretched to its last value. -/
  currentSpan : Option Span := none
  /-- The path of the last header; empty for the root. -/
  currentPath : List Key := []
  /-- Whether the last header was a double-bracket one. -/
  currentIsArray : Bool := false
deriving Inhabited

namespace Builder

/-- Puts a key-value pair, its key after the dotted `path`, into the current table. -/
def onKeyval (b : Builder) (path : List Key) (key : Key) (value : Node) :
    Except Conflict Builder := do
  let span := match b.currentSpan, value.span? with
    | some s, some v => some ⟨s.start, v.stop⟩
    | s, _ => s
  let es ← putDotted false (some (names b.currentPath)) path key value .header b.current
  return { b with current := es, currentSpan := span }

/-- Puts the current table in place in the root. -/
def finalize (b : Builder) : Except Conflict Builder := do
  let table : Node := .table .header b.current b.currentSpan
  let b' : Builder := { b with current := [], currentSpan := none, currentPath := [] }
  match b.currentPath.getLast? with
  | none => return { b' with root := b.current }
  | some key =>
    let parent := b.currentPath.dropLast
    let (root, _) ← descend false false (fun _ es =>
        match lookup key.name es with
        | none =>
          if b.currentIsArray then .ok (es ++ [(key, .tables [table] (tablesSpan [table]))], ())
          else .ok (es ++ [(key, table)], ())
        | some (.tables items _) =>
          if b.currentIsArray then
            let items' := items ++ [table]
            .ok (replaceEntry key.name (.tables items' (tablesSpan items')) es, ())
          else .error (redefined b.currentPath)
        | some (.table kind _ _) =>
          if !b.currentIsArray && !kind.inline && kind.implicit then
            .ok (replaceEntry key.name table es, ())
          else .error (redefined b.currentPath)
        | some _ => .error (redefined b.currentPath))
      [] parent .header b.root
    return { b' with root := root }

/-- Starts the table of a `[path]` header written at `span`, taking over a table made on
the way by a longer header. -/
def startTable (b : Builder) (path : List Key) (span : Span) : Except Conflict Builder := do
  let b ← b.finalize
  match path.getLast? with
  | none => return b
  | some key =>
    let (root, adopted) ← descend false false (fun _ es =>
        match lookup key.name es with
        | none => .ok (es, [])
        | some (.table kind inner _) =>
          if !kind.inline && kind.implicit && !kind.dotted then .ok (eraseEntry key.name es, inner)
          else .error (redefined path)
        | some _ => .error (redefined path))
      [] path.dropLast .header b.root
    return { b with root := root, current := adopted, currentSpan := some span,
                    currentPath := path, currentIsArray := false }

/-- Starts a table of a `[[path]]` header written at `span`, making the array of tables
if needed. -/
def startArrayTable (b : Builder) (path : List Key) (span : Span) : Except Conflict Builder := do
  let b ← b.finalize
  match path.getLast? with
  | none => return b
  | some key =>
    let (root, _) ← descend false false (fun _ es =>
        match lookup key.name es with
        | none => .ok (es ++ [(key, .tables [] none)], ())
        | some (.tables _ _) => .ok (es, ())
        | some _ => .error (redefined path))
      [] path.dropLast .header b.root
    return { b with root := root, current := [], currentSpan := some span,
                    currentPath := path, currentIsArray := true }

/-- The document: the root table once the last header's table is in place. -/
def finish (b : Builder) : Except Conflict Node := do
  let b ← b.finalize
  return .table .header b.root none

end Builder

end Toml

end SwitchAdmin
