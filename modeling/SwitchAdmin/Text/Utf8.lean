/-!
# UTF-8 bytes

`utf8Encode` gives the UTF-8 bytes of a character and `utf8Bytes` of a string.
`utf8Decode` reads bytes back as text. It accepts exactly the well-formed sequences
(no overlong forms, no surrogates, nothing above U+10FFFF), and otherwise reports where
the valid prefix ends and either how many bytes form the first invalid sequence or that
the input ends inside a sequence.
-/

namespace SwitchAdmin

/-- The UTF-8 bytes of a character. -/
def utf8Encode (c : Char) : List Nat :=
  let n := c.toNat
  if n < 0x80 then [n]
  else if n < 0x800 then [0xC0 + n / 0x40, 0x80 + n % 0x40]
  else if n < 0x10000 then [0xE0 + n / 0x1000, 0x80 + (n / 0x40) % 0x40, 0x80 + n % 0x40]
  else [0xF0 + n / 0x40000, 0x80 + (n / 0x1000) % 0x40, 0x80 + (n / 0x40) % 0x40, 0x80 + n % 0x40]

/-- The UTF-8 bytes of a string. -/
def utf8Bytes (s : String) : List Nat := s.toList.flatMap utf8Encode

/-- Why bytes are not UTF-8 text. -/
inductive Utf8Error where
  /-- An invalid sequence of `length` bytes starts at `validUpTo`. -/
  | invalid (validUpTo length : Nat)
  /-- The input ends inside a sequence that starts at `validUpTo`. -/
  | incomplete (validUpTo : Nat)
deriving DecidableEq, Repr

/-- The description of a decoding error. -/
def Utf8Error.message : Utf8Error → String
  | .invalid start len => s!"invalid utf-8 sequence of {len} bytes from index {start}"
  | .incomplete start => s!"incomplete utf-8 byte sequence from index {start}"

/-- Whether a byte continues a multi-byte sequence. -/
def isContinuation (b : Nat) : Bool := 0x80 ≤ b && b ≤ 0xBF

/-- Whether the second byte `b` may follow the lead byte `lead` of a three-byte sequence. -/
def secondOfThree (lead b : Nat) : Bool :=
  if lead = 0xE0 then 0xA0 ≤ b && b ≤ 0xBF
  else if lead = 0xED then 0x80 ≤ b && b ≤ 0x9F
  else isContinuation b

/-- Whether the second byte `b` may follow the lead byte `lead` of a four-byte sequence. -/
def secondOfFour (lead b : Nat) : Bool :=
  if lead = 0xF0 then 0x90 ≤ b && b ≤ 0xBF
  else if lead = 0xF4 then 0x80 ≤ b && b ≤ 0x8F
  else isContinuation b

/-- Decodes bytes from position `pos`, the characters so far being `acc` (reversed). -/
def utf8DecodeFrom (pos : Nat) (acc : List Char) : List Nat → Except Utf8Error (List Char)
  | [] => .ok acc.reverse
  | b :: rest =>
    if b < 0x80 then utf8DecodeFrom (pos + 1) (Char.ofNat b :: acc) rest
    else if 0xC2 ≤ b ∧ b ≤ 0xDF then
      match rest with
      | [] => .error (.incomplete pos)
      | c1 :: rest' =>
        if isContinuation c1 then
          utf8DecodeFrom (pos + 2) (Char.ofNat ((b - 0xC0) * 0x40 + (c1 - 0x80)) :: acc) rest'
        else .error (.invalid pos 1)
    else if 0xE0 ≤ b ∧ b ≤ 0xEF then
      match rest with
      | [] => .error (.incomplete pos)
      | c1 :: rest' =>
        if !secondOfThree b c1 then .error (.invalid pos 1)
        else match rest' with
          | [] => .error (.incomplete pos)
          | c2 :: rest'' =>
            if isContinuation c2 then
              utf8DecodeFrom (pos + 3)
                (Char.ofNat (((b - 0xE0) * 0x40 + (c1 - 0x80)) * 0x40 + (c2 - 0x80)) :: acc) rest''
            else .error (.invalid pos 2)
    else if 0xF0 ≤ b ∧ b ≤ 0xF4 then
      match rest with
      | [] => .error (.incomplete pos)
      | c1 :: rest' =>
        if !secondOfFour b c1 then .error (.invalid pos 1)
        else match rest' with
          | [] => .error (.incomplete pos)
          | c2 :: rest'' =>
            if !isContinuation c2 then .error (.invalid pos 2)
            else match rest'' with
              | [] => .error (.incomplete pos)
              | c3 :: rest''' =>
                if isContinuation c3 then
                  utf8DecodeFrom (pos + 4)
                    (Char.ofNat ((((b - 0xF0) * 0x40 + (c1 - 0x80)) * 0x40 + (c2 - 0x80)) * 0x40
                      + (c3 - 0x80)) :: acc) rest'''
                else .error (.invalid pos 3)
    else .error (.invalid pos 1)

/-- Reads bytes as UTF-8 text. -/
def utf8Decode (bytes : List Nat) : Except Utf8Error String :=
  (utf8DecodeFrom 0 [] bytes).map String.ofList

end SwitchAdmin
