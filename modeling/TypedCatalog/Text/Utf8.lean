import TypedCatalog.Text.Basic

/-! The byte form of text: one to four bytes a character, the shortest that fits. Reading refuses
longer forms, surrogates and what lies above the last code point. -/
namespace TypedCatalog.Text.Utf8

def encodeChar (c : Char) : List UInt8 :=
  let n := c.toNat
  if n < 0x80 then [n.toUInt8]
  else if n < 0x800 then [(0xc0 + n / 0x40).toUInt8, (0x80 + n % 0x40).toUInt8]
  else if n < 0x10000 then
    [(0xe0 + n / 0x1000).toUInt8, (0x80 + n / 0x40 % 0x40).toUInt8, (0x80 + n % 0x40).toUInt8]
  else
    [(0xf0 + n / 0x40000).toUInt8, (0x80 + n / 0x1000 % 0x40).toUInt8,
      (0x80 + n / 0x40 % 0x40).toUInt8, (0x80 + n % 0x40).toUInt8]

def encode (text : Text) : List UInt8 := text.flatMap encodeChar

/-- The six bits of a continuation byte. -/
def tail? (byte : UInt8) : Option Nat :=
  if 0x80 ≤ byte.toNat && byte.toNat < 0xc0 then some (byte.toNat - 0x80) else none

/-- A character from its code point, if the form was the shortest one. -/
def checked? (least code : Nat) : Option Char :=
  if h : code.isValidChar then
    if least ≤ code then some (Char.ofNatAux code h) else none
  else none

def decode? : List UInt8 → Option Text
  | [] => some []
  | first :: rest =>
    let n := first.toNat
    if n < 0x80 then (decode? rest).map (Char.ofNat n :: ·)
    else match rest with
      | [] => none
      | b :: rest =>
        match tail? b with
        | none => none
        | some b =>
          if 0xc0 ≤ n && n < 0xe0 then
            match checked? 0x80 ((n - 0xc0) * 0x40 + b) with
            | none => none
            | some c => (decode? rest).map (c :: ·)
          else match rest with
            | [] => none
            | d :: rest =>
              match tail? d with
              | none => none
              | some d =>
                if 0xe0 ≤ n && n < 0xf0 then
                  match checked? 0x800 (((n - 0xe0) * 0x40 + b) * 0x40 + d) with
                  | none => none
                  | some c => (decode? rest).map (c :: ·)
                else match rest with
                  | [] => none
                  | e :: rest =>
                    match tail? e with
                    | none => none
                    | some e =>
                      if 0xf0 ≤ n && n < 0xf8 then
                        match checked? 0x10000
                            ((((n - 0xf0) * 0x40 + b) * 0x40 + d) * 0x40 + e) with
                        | none => none
                        | some c => (decode? rest).map (c :: ·)
                      else none

/-- The number of bytes of the text. -/
def size (text : Text) : Nat := (encode text).length

end TypedCatalog.Text.Utf8
