import SwitchAdmin.Url.Absolute

/-!
# Normalising a URL path into segments

`normalizePath` turns the text a user navigates to into the list of path segments that
routes are matched against:

1. a text that reads as an absolute URL is refused;
2. the text is cut at the first `?` or `#`;
3. tabs and line breaks are dropped, a first `/` or `\` is skipped, and the rest is cut at
   every `/` and `\` into pieces;
4. each piece is percent-encoded as a URL path writes it; then `.` and `%2e` (either case)
   stand for the current directory and `..` (in any mix of `.` and `%2e`) for the parent,
   which removes the last piece so far (never going above the root); a dot piece at the
   very end leaves an empty piece behind;
5. empty pieces are dropped, and each remaining piece is percent-decoded and read as UTF-8.

So `.` and `..` never reach the segments, and a decoded `%2F` is a `/` inside one segment.
-/

namespace SwitchAdmin

/-- Why a text does not normalise to path segments. -/
inductive PathError where
  /-- The text is an absolute URL, not a path. -/
  | absolute
  /-- A segment's bytes are not UTF-8. -/
  | badSegment (encoded : String) (error : Utf8Error)
deriving DecidableEq, Repr

/-- The reason given for a path error. -/
def PathError.reason : PathError → String
  | .absolute => "expected a path, found an absolute url"
  | .badSegment encoded e => s!"segment '{encoded}' is not valid UTF-8: " ++ e.message

namespace UrlPath

/-- The spellings of the parent-directory piece after percent-encoding. -/
def parentSpellings : List String :=
  ["..", ".%2e", ".%2E", "%2e.", "%2E.", "%2e%2e", "%2e%2E", "%2E%2e", "%2E%2E"]

/-- The spellings of the current-directory piece after percent-encoding. -/
def currentSpellings : List String := [".", "%2e", "%2E"]

/-- Applies one encoded piece to the pieces so far; `last` says that no separator follows. -/
def step (path : List String) (piece : String) (last : Bool) : List String :=
  if parentSpellings.contains piece then path.dropLast ++ (if last then [""] else [])
  else if currentSpellings.contains piece then path ++ (if last then [""] else [])
  else path ++ [piece]

/-- Applies the pieces in turn; only the final piece has no separator after it. -/
def resolve : List String → List String → List String
  | path, [] => path
  | path, [p] => step path p true
  | path, p :: rest => resolve (step path p false) rest

/-- Whether a character separates pieces of a path. -/
def isSeparator (c : Char) : Bool := c == '/' || c == '\\'

/-- Cuts at every separator, keeping empty pieces. -/
def cut : List Char → List (List Char)
  | cs => piecesFromBy [] cs
where
  /-- Cuts with the current piece `cur` reversed. -/
  piecesFromBy (cur : List Char) : List Char → List (List Char)
    | [] => [cur.reverse]
    | c :: rest => if isSeparator c then cur.reverse :: piecesFromBy [] rest else piecesFromBy (c :: cur) rest

/-- The percent-encoded pieces of a path, after dot pieces are resolved. -/
def encodedPieces (input : String) : List String :=
  let beforeQuery := input.toList.takeWhile fun c => c != '?' && c != '#'
  let cs := beforeQuery.filter fun c => !(c == '\t' || c == '\n' || c == '\r')
  let cs := match cs with
    | c :: rest => if isSeparator c then rest else c :: rest
    | [] => []
  let pieces := (cut cs).map fun p => String.ofList (p.flatMap encodePathChar)
  resolve [] pieces

/-- Decodes one encoded segment. -/
def decodeSegment (encoded : String) : Except PathError String :=
  match utf8Decode (percentDecode (utf8Bytes encoded)) with
  | .ok s => .ok s
  | .error e => .error (.badSegment encoded e)

end UrlPath

/-- The segments of the path a text names; a text that reads as an absolute URL, domains put
in ASCII form by `toAscii`, names none. -/
def normalizePath (toAscii : DomainToAscii) (input : String) : Except PathError (List String) :=
  if Url.isAbsoluteUrl toAscii input then .error .absolute
  else ((UrlPath.encodedPieces input).filter (!·.isEmpty)).mapM UrlPath.decodeSegment

/-- The path of segments: a slash before each. -/
def joinSegments (segments : List String) : String := "/" ++ joinWith "/" segments

end SwitchAdmin
