/-
# LinkOwnership.Text.Utf8 -- strict UTF-8

`Utf8.encode` writes characters as one to four bytes.  `Utf8.decode` reads only what
`encode` writes: overlong forms, surrogates and numbers beyond the last character are
refused.  A refusal is a `Utf8.Fault`.  It says where the offending bytes start and how
many there are -- the longest start of a valid sequence, or the one byte that starts none --
and which of three things is wrong.
-/
import LinkOwnership.Text.Hex

namespace LinkOwnership.Text.Utf8

set_option autoImplicit false

def encodeChar (c : Char) : List UInt8 :=
  let n := c.toNat
  if n < 0x80 then [UInt8.ofNat n]
  else if n < 0x800 then
    [UInt8.ofNat (0xC0 + n / 0x40), UInt8.ofNat (0x80 + n % 0x40)]
  else if n < 0x10000 then
    [UInt8.ofNat (0xE0 + n / 0x1000), UInt8.ofNat (0x80 + n / 0x40 % 0x40),
      UInt8.ofNat (0x80 + n % 0x40)]
  else
    [UInt8.ofNat (0xF0 + n / 0x40000), UInt8.ofNat (0x80 + n / 0x1000 % 0x40),
      UInt8.ofNat (0x80 + n / 0x40 % 0x40), UInt8.ofNat (0x80 + n % 0x40)]

def encode (t : List Char) : List UInt8 := t.flatMap encodeChar

def encodeString (s : String) : List UInt8 := encode s.toList

inductive Reason where
  | invalidStart
  | invalidContinuation
  | unexpectedEnd
  deriving DecidableEq, Repr

def Reason.text : Reason → String
  | .invalidStart => "invalid start byte"
  | .invalidContinuation => "invalid continuation byte"
  | .unexpectedEnd => "unexpected end of data"

/-- A place where bytes stop being UTF-8: the first offending byte, its position, how many
bytes are at fault, and why. -/
structure Fault where
  byte : UInt8
  position : Nat
  count : Nat
  reason : Reason
  deriving DecidableEq, Repr

/-- One byte is shown with its value, several by the positions of the first and the last. -/
def Fault.message (f : Fault) : String :=
  if f.count = 1 then
    s!"'utf-8' codec can't decode byte 0x" ++ String.ofList (Hex.padded 2 f.byte.toNat)
      ++ s!" in position {f.position}: " ++ f.reason.text
  else
    s!"'utf-8' codec can't decode bytes in position {f.position}-{f.position + f.count - 1}: "
      ++ f.reason.text

/-- A byte that may follow the first of a sequence. -/
def isTail (b : UInt8) : Bool := 0x80 ≤ b && b < 0xC0

/-- A byte that may come second in a sequence of three: it excludes overlong forms and
surrogates. -/
def isSecondOfThree (first second : UInt8) : Bool :=
  isTail second && !(first == 0xE0 && second < 0xA0) && !(first == 0xED && 0xA0 ≤ second)

/-- A byte that may come second in a sequence of four: it excludes overlong forms and numbers
beyond the last character. -/
def isSecondOfFour (first second : UInt8) : Bool :=
  isTail second && !(first == 0xF0 && second < 0x90) && !(first == 0xF4 && 0x90 ≤ second)

/-- The six bits that a tail byte carries. -/
def tailBits (b : UInt8) : Nat := b.toNat - 0x80

/-- Read bytes as text, the first of them being at position `pos`. -/
def decodeFrom (pos : Nat) : List UInt8 → Except Fault (List Char)
  | [] => .ok []
  | a :: rest =>
      if a < 0x80 then (decodeFrom (pos + 1) rest).map (Char.ofNat a.toNat :: ·)
      else if a < 0xC2 || 0xF4 < a then .error ⟨a, pos, 1, .invalidStart⟩
      else if a < 0xE0 then
        match rest with
        | [] => .error ⟨a, pos, 1, .unexpectedEnd⟩
        | b :: rest =>
            if isTail b then
              (decodeFrom (pos + 2) rest).map
                (Char.ofNat ((a.toNat - 0xC0) * 0x40 + tailBits b) :: ·)
            else .error ⟨a, pos, 1, .invalidContinuation⟩
      else if a < 0xF0 then
        match rest with
        | [] => .error ⟨a, pos, 1, .unexpectedEnd⟩
        | b :: rest =>
            if isSecondOfThree a b then
              match rest with
              | [] => .error ⟨a, pos, 2, .unexpectedEnd⟩
              | c :: rest =>
                  if isTail c then
                    (decodeFrom (pos + 3) rest).map
                      (Char.ofNat ((a.toNat - 0xE0) * 0x1000 + tailBits b * 0x40 + tailBits c) :: ·)
                  else .error ⟨a, pos, 2, .invalidContinuation⟩
            else .error ⟨a, pos, 1, .invalidContinuation⟩
      else
        match rest with
        | [] => .error ⟨a, pos, 1, .unexpectedEnd⟩
        | b :: rest =>
            if isSecondOfFour a b then
              match rest with
              | [] => .error ⟨a, pos, 2, .unexpectedEnd⟩
              | c :: rest =>
                  if isTail c then
                    match rest with
                    | [] => .error ⟨a, pos, 3, .unexpectedEnd⟩
                    | d :: rest =>
                        if isTail d then
                          (decodeFrom (pos + 4) rest).map
                            (Char.ofNat ((a.toNat - 0xF0) * 0x40000 + tailBits b * 0x1000
                              + tailBits c * 0x40 + tailBits d) :: ·)
                        else .error ⟨a, pos, 3, .invalidContinuation⟩
                  else .error ⟨a, pos, 2, .invalidContinuation⟩
            else .error ⟨a, pos, 1, .invalidContinuation⟩

def decode (bytes : List UInt8) : Except Fault (List Char) := decodeFrom 0 bytes

end LinkOwnership.Text.Utf8
