import SwitchAdmin.Url.Host

/-!
# Absolute URLs

`isAbsoluteUrl s` says whether `s` reads as an absolute URL on its own. Leading and
trailing controls and spaces are ignored and tabs and line breaks are dropped; then the
text must start with a scheme (an ASCII letter followed by letters, digits, `+`, `-` or
`.`) and a colon. What follows decides:

* `http`, `https`, `ws`, `wss`, `ftp`: after any slashes and backslashes comes an
  authority, `[userinfo@]host[:port]`, that must have a valid non-empty host and a port of
  at most 65535;
* `file`: a host after two slashes must be valid when it is present (a drive letter such
  as `C:` is a path, not a host);
* any other scheme: after two slashes an opaque host and port are checked in the same way;
  without them every text is accepted (`mailto:x`, `a:b`).
-/

namespace SwitchAdmin

namespace Url

/-- How a scheme's URLs are read. -/
inductive SchemeKind where
  | special
  | file
  | other
deriving DecidableEq

/-- The kind of a scheme given in lower case. -/
def SchemeKind.ofName (name : String) : SchemeKind :=
  if name = "file" then .file
  else if ["http", "https", "ws", "wss", "ftp"].contains name then .special
  else .other

/-- Whether a character may continue a scheme. -/
def schemeChar (c : Char) : Bool := c.isAlphanum || c == '+' || c == '-' || c == '.'

/-- Splits a scheme and the colon off the front: the scheme in lower case and the rest. -/
def splitScheme (cs : List Char) : Option (String × List Char) :=
  match cs with
  | c :: _ =>
    if !c.isAlpha then none
    else
      let name := cs.takeWhile schemeChar
      match cs.drop name.length with
      | ':' :: rest => some (String.ofList (name.map Host.foldCase), rest)
      | _ => none
  | [] => none

/-- Whether a character ends an authority. -/
def endsAuthority (kind : SchemeKind) (c : Char) : Bool :=
  c == '/' || c == '?' || c == '#' || (kind != .other && c == '\\')

/-- Splits host and port at the first colon outside brackets. -/
def splitPort : Bool → List Char → List Char × Option (List Char)
  | _, [] => ([], none)
  | inside, c :: rest =>
    if c = ':' ∧ !inside then ([], some rest)
    else
      let inside' := if c = '[' then true else if c = ']' then false else inside
      let (h, p) := splitPort inside' rest
      (c :: h, p)

/-- Whether a port text is valid: digits only, at most 65535; empty is allowed. -/
def portValid (cs : List Char) : Bool :=
  cs.all Char.isDigit && Host.digitsValue 10 cs ≤ 65535

/-- Whether an authority (everything up to its end) is valid for a scheme kind. -/
def authorityValid (toAscii : DomainToAscii) (kind : SchemeKind) (authority : List Char) : Bool :=
  let hasUser := authority.contains '@'
  let hostPort := (pieces '@' authority).getLastD []
  let (host, port) := splitPort false hostPort
  let hostOk :=
    if kind = .other then
      (host.isEmpty && !hasUser) || (!host.isEmpty && Host.opaqueValid host)
    else !host.isEmpty && Host.specialValid toAscii host
  hostOk && (port.map portValid).getD true

/-- Whether a file URL's text after `file:` is valid. -/
def fileValid (toAscii : DomainToAscii) (rest : List Char) : Bool :=
  let slash (c : Char) := c == '/' || c == '\\'
  match rest with
  | a :: b :: more =>
    if slash a && slash b then
      let host := more.takeWhile fun c => !(slash c || c == '?' || c == '#')
      match host with
      | [] => true
      | [l, s] => (l.isAlpha && (s == ':' || s == '|')) || Host.specialValid toAscii host
      | _ => host.map Host.foldCase == "localhost".toList || Host.specialValid toAscii host
    else true
  | _ => true

/-- Whether a text reads as an absolute URL, domains put in ASCII form by `toAscii`. -/
def isAbsoluteUrl (toAscii : DomainToAscii) (input : String) : Bool :=
  let blank (c : Char) := c.toNat ≤ 0x20
  let trimmed := ((input.toList.dropWhile blank).reverse.dropWhile blank).reverse
  let cs := trimmed.filter fun c => !(c == '\t' || c == '\n' || c == '\r')
  match splitScheme cs with
  | none => false
  | some (name, rest) =>
    match SchemeKind.ofName name with
    | .file => fileValid toAscii rest
    | .special =>
      let afterSlashes := rest.dropWhile fun c => c == '/' || c == '\\'
      authorityValid toAscii .special
        (afterSlashes.takeWhile fun c => !endsAuthority .special c)
    | .other =>
      match rest with
      | '/' :: '/' :: more =>
        authorityValid toAscii .other (more.takeWhile fun c => !endsAuthority .other c)
      | _ => true

end Url

end SwitchAdmin
