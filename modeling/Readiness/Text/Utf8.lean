/-!
# Lenient decoding

Bytes are read as UTF-8, and bytes that are part of no character are dropped. Overlong forms,
surrogates and values beyond the last character are no characters, and a damaged sequence never
takes bytes of the character after it.

* `Utf8.decode` is the text of a sequence of bytes.
* `Utf8.decode?` is the text of a sequence of bytes of which none needs to be dropped.
* `Utf8.encode` is the UTF-8 form of a text.
-/

namespace Readiness.Utf8

def isTail (b : UInt8) : Bool := 0x80 ≤ b && b ≤ 0xBF

/-- Whether the bytes form a character of two bytes. -/
def isPair (a b : UInt8) : Bool := 0xC2 ≤ a && a ≤ 0xDF && isTail b

/-- Whether the bytes form a character of three bytes. -/
def isTriple (a b c : UInt8) : Bool :=
  isTail b && isTail c &&
    (a == 0xE0 && 0xA0 ≤ b || a == 0xED && b ≤ 0x9F || 0xE1 ≤ a && a ≤ 0xEF && a != 0xED)

/-- Whether the bytes form a character of four bytes. -/
def isQuadruple (a b c d : UInt8) : Bool :=
  isTail b && isTail c && isTail d &&
    (a == 0xF0 && 0x90 ≤ b || a == 0xF4 && b ≤ 0x8F || 0xF1 ≤ a && a ≤ 0xF3)

/-- The payload of a byte that continues a sequence. -/
def tailBits (b : UInt8) : Nat := b.toNat - 0x80

/-- The character of two, three or four bytes that the bytes `a :: rest` begin with, and how many
of `rest` belong to it. -/
def wide? (a : UInt8) (rest : List UInt8) : Option (Char × Nat) :=
  match rest with
  | [] => none
  | b :: rest =>
    if isPair a b then some (Char.ofNat ((a.toNat - 0xC0) * 0x40 + tailBits b), 1)
    else match rest with
      | [] => none
      | c :: rest =>
        if isTriple a b c then
          some (Char.ofNat ((a.toNat - 0xE0) * 0x1000 + tailBits b * 0x40 + tailBits c), 2)
        else match rest with
          | [] => none
          | d :: _ =>
            if isQuadruple a b c d then
              some (Char.ofNat ((a.toNat - 0xF0) * 0x40000 + tailBits b * 0x1000 +
                tailBits c * 0x40 + tailBits d), 3)
            else none

/-- The character that the bytes `a :: rest` begin with, and how many of `rest` belong to it. -/
def first? (a : UInt8) (rest : List UInt8) : Option (Char × Nat) :=
  if a < 0x80 then some (Char.ofNat a.toNat, 0) else wide? a rest

/-- The text of the bytes after the next `skip` ones, which belong to a character read before. -/
def decodeAfter : (skip : Nat) → List UInt8 → List Char
  | _, [] => []
  | skip + 1, _ :: rest => decodeAfter skip rest
  | 0, a :: rest =>
    match first? a rest with
    | some (c, n) => c :: decodeAfter n rest
    | none => decodeAfter 0 rest

/-- The text of the bytes, without those that are part of no character. -/
def decode (bytes : List UInt8) : List Char := decodeAfter 0 bytes

def encodeChar (c : Char) : List UInt8 :=
  let n := c.toNat
  let byte (lead shift : Nat) : UInt8 := UInt8.ofNat (lead + n / shift % 0x40)
  if n < 0x80 then [UInt8.ofNat n]
  else if n < 0x800 then [UInt8.ofNat (0xC0 + n / 0x40), byte 0x80 1]
  else if n < 0x10000 then [UInt8.ofNat (0xE0 + n / 0x1000), byte 0x80 0x40, byte 0x80 1]
  else [UInt8.ofNat (0xF0 + n / 0x40000), byte 0x80 0x1000, byte 0x80 0x40, byte 0x80 1]

def encode (s : List Char) : List UInt8 := s.flatMap encodeChar

/-- The text of the bytes, if all of them are part of characters. -/
def decode? (bytes : List UInt8) : Option (List Char) :=
  let s := decode bytes
  if encode s == bytes then some s else none

end Readiness.Utf8
