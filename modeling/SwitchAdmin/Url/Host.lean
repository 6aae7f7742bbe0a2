import SwitchAdmin.Url.Percent
import SwitchAdmin.Text.Pieces

/-!
# Hosts of URLs

Which host texts a URL may carry. A host in brackets is an IPv6 address. For the special
schemes (`http`, `https`, `ws`, `wss`, `ftp`, `file`) any other host is a domain: its
percent-escapes are decoded, the bytes must be UTF-8, and the text goes through the
domain-to-ASCII step, which may refuse it; its ASCII form must not be empty, and it must not
hold a control, a space, DEL or one of `%#/:<>?@[\]^|`; a domain whose last label is a
number must be an IPv4 address. For other schemes the host is opaque: any text without a
control, a space or one of `#/:<>?@[\]^|`.

The domain-to-ASCII step (the international-domain processing of the URL standard) is a
parameter, `DomainToAscii`, so that what is proved here holds whichever one is used. The one
the program runs, `Host.asciiLower`, folds ASCII letters to lower case and keeps every other
character, so non-ASCII labels are accepted as they stand.
-/

namespace SwitchAdmin

/-- The domain-to-ASCII step of host parsing: the ASCII form of a decoded domain, or `none`
when the domain has none. -/
abbrev DomainToAscii := List Char → Option (List Char)

namespace Host

/-- Whether a character is an ASCII hexadecimal digit. -/
def isHexDigit (c : Char) : Bool :=
  c.isDigit || ('a' ≤ c && c ≤ 'f') || ('A' ≤ c && c ≤ 'F')

/-- The value of an ASCII hexadecimal digit. -/
def hexValue (c : Char) : Nat :=
  if c.isDigit then c.toNat - '0'.toNat
  else if 'a' ≤ c && c ≤ 'f' then c.toNat - 'a'.toNat + 10
  else c.toNat - 'A'.toNat + 10

/-- The value of digits in a radix. -/
def digitsValue (radix : Nat) (cs : List Char) : Nat :=
  cs.foldl (fun acc c => acc * radix + hexValue c) 0

/-- One number of an IPv4 address: `none` if it is not a number, `some none` if it is a
number beyond 32 bits, `some (some n)` otherwise. Hex after `0x`, octal after a leading
`0`, decimal otherwise. -/
def ipv4Number (cs : List Char) : Option (Option Nat) :=
  if cs.isEmpty then none
  else
    let (radix, ds) := match cs with
      | '0' :: 'x' :: rest => (16, rest)
      | '0' :: 'X' :: rest => (16, rest)
      | '0' :: c :: rest => (8, c :: rest)
      | _ => (10, cs)
    if ds.isEmpty then some (some 0)
    else
      let ok := match radix with
        | 8 => ds.all fun c => '0' ≤ c && c ≤ '7'
        | 10 => ds.all Char.isDigit
        | _ => ds.all isHexDigit
      if !ok then none
      else
        let v := digitsValue radix ds
        if v < Nat.pow 2 32 then some (some v) else some none

/-- Whether a domain's last label (ignoring one trailing dot) is a number. -/
def endsInNumber (cs : List Char) : Bool :=
  let labels := pieces '.' cs
  let labels := if labels.getLast? = some [] ∧ labels.length > 1 then labels.dropLast else labels
  match labels.getLast? with
  | some last =>
    (!last.isEmpty && last.all Char.isDigit) || (ipv4Number last).isSome
  | none => false

/-- Whether a text is an IPv4 address in one of its spellings. -/
def ipv4Valid (cs : List Char) : Bool :=
  let parts := pieces '.' cs
  let parts := if parts.getLast? = some [] then parts.dropLast else parts
  if parts.length > 4 ∨ parts.isEmpty then false
  else
    let nums := parts.map ipv4Number
    if nums.any (fun n => n.isNone || n == some none) then false
    else
      let vals := nums.map fun n => (n.getD none).getD 0
      let front := vals.dropLast
      let last := vals.getLastD 0
      last < Nat.pow 256 (4 - front.length) && front.all (· ≤ 255)

/-- Reads up to `n` hexadecimal digits: their value, how many, and the rest. -/
def hexRun : Nat → List Char → Nat × Nat × List Char
  | 0, cs => (0, 0, cs)
  | n + 1, c :: rest =>
    if isHexDigit c then
      let (v, k, r) := hexRun n rest
      (hexValue c * Nat.pow 16 k + v, k + 1, r)
    else (0, 0, c :: rest)
  | _ + 1, [] => (0, 0, [])

/-- Reads decimal digits of an IPv4 part inside an IPv6 address: the value if the part is
valid (no leading zero, at most 255), and the rest. -/
def ipv4Part (cs : List Char) : Option (Nat × List Char) :=
  let ds := cs.takeWhile Char.isDigit
  let rest := cs.dropWhile Char.isDigit
  if ds.isEmpty then none
  else if ds.length > 1 && ds.head? = some '0' then none
  else
    let v := digitsValue 10 ds
    if v > 255 then none else some (v, rest)

/-- The dotted IPv4 tail of an IPv6 address: four parts; the number of pieces it fills is 2. -/
def ipv4Tail : Nat → Nat → List Char → Bool
  | 0, _, _ => false
  | fuel + 1, seen, cs =>
    if seen = 4 then cs.isEmpty
    else
      let cs' := if seen > 0 then (match cs with | '.' :: r => some r | _ => none) else some cs
      match cs' with
      | none => false
      | some r =>
        match ipv4Part r with
        | none => false
        | some (_, rest) => ipv4Tail fuel (seen + 1) rest

/-- The pieces of an IPv6 address after the start: `count` pieces read, `compress` where
`::` stands. -/
def ipv6Pieces : Nat → Nat → Option Nat → List Char → Bool
  | 0, _, _, _ => false
  | _ + 1, count, compress, [] => compress.isSome || count = 8
  | fuel + 1, count, compress, c :: rest =>
    if count = 8 then false
    else if c = ':' then
      if compress.isSome then false else ipv6Pieces fuel (count + 1) (some (count + 1)) rest
    else
      let (_, n, after) := hexRun 4 (c :: rest)
      match after with
      | '.' :: _ =>
        n ≠ 0 && count ≤ 6 && ipv4Tail 5 0 (c :: rest) && (compress.isSome || count + 2 = 8)
      | ':' :: after' =>
        if after'.isEmpty then false else ipv6Pieces fuel (count + 1) compress after'
      | [] => ipv6Pieces fuel (count + 1) compress []
      | _ => false

/-- Whether a text (without brackets) is an IPv6 address. -/
def ipv6Valid (cs : List Char) : Bool :=
  if cs.length < 2 then false
  else match cs with
    | ':' :: ':' :: rest => ipv6Pieces (rest.length + 2) 1 (some 1) rest
    | ':' :: _ => false
    | _ => ipv6Pieces (cs.length + 2) 0 none cs

/-- Lowercases an ASCII letter. -/
def foldCase (c : Char) : Char := if 'A' ≤ c && c ≤ 'Z' then Char.ofNat (c.toNat + 32) else c

/-- The domain-to-ASCII step the program runs: ASCII letters folded to lower case, every
other character kept. -/
def asciiLower : DomainToAscii := fun cs => some (cs.map foldCase)

/-- Characters no domain may hold. -/
def forbiddenInDomain (c : Char) : Bool :=
  c.toNat ≤ 0x20 || c.toNat == 0x7F || "%#/:<>?@[\\]^|".toList.contains c

/-- Characters no opaque host may hold. -/
def forbiddenInOpaque (c : Char) : Bool :=
  c.toNat == 0 || c == '\t' || c == '\n' || c == '\r' || "#/:<>?@[\\]^| ".toList.contains c

/-- Whether a text in brackets is an IPv6 address. -/
def bracketedValid (cs : List Char) : Bool :=
  match cs with
  | '[' :: rest => rest.getLast? = some ']' && ipv6Valid rest.dropLast
  | _ => false

/-- Whether a host of a special URL is valid, the domain put in ASCII form by `toAscii`. -/
def specialValid (toAscii : DomainToAscii) (cs : List Char) : Bool :=
  if cs.head? = some '[' then bracketedValid cs
  else
    match utf8Decode (percentDecode (utf8Bytes (String.ofList cs))) with
    | .error _ => false
    | .ok text =>
      match toAscii text.toList with
      | none => false
      | some d => !d.isEmpty && !d.any forbiddenInDomain && (!endsInNumber d || ipv4Valid d)

/-- Whether a host of a non-special URL is valid (an empty one is). -/
def opaqueValid (cs : List Char) : Bool :=
  if cs.head? = some '[' then bracketedValid cs else !cs.any forbiddenInOpaque

end Host

end SwitchAdmin
