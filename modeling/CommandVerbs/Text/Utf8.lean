/-!
# UTF-8

Writing characters as bytes and reading them back. `decode` accepts exactly the well-formed
sequences; `decodeLossy` reads anything and puts U+FFFD for each maximal ill-formed part.
-/

namespace CommandVerbs.Text.Utf8

/-- The bytes of one character. -/
def encodeChar (c : Char) : List UInt8 :=
  let n := c.toNat
  if n < 0x80 then [n.toUInt8]
  else if n < 0x800 then [(0xC0 + n / 0x40).toUInt8, (0x80 + n % 0x40).toUInt8]
  else if n < 0x10000 then
    [(0xE0 + n / 0x1000).toUInt8, (0x80 + n / 0x40 % 0x40).toUInt8, (0x80 + n % 0x40).toUInt8]
  else
    [(0xF0 + n / 0x40000).toUInt8, (0x80 + n / 0x1000 % 0x40).toUInt8,
      (0x80 + n / 0x40 % 0x40).toUInt8, (0x80 + n % 0x40).toUInt8]

/-- The bytes of a text. -/
def encode (s : List Char) : List UInt8 :=
  s.flatMap encodeChar

/-- The payload of a continuation byte. -/
def payload? (b : UInt8) : Option Nat :=
  if 0x80 ≤ b.toNat ∧ b.toNat ≤ 0xBF then some (b.toNat - 0x80) else none

/-- The values that the second byte of a sequence may take after the given first one. -/
def secondRange (lead : Nat) : Nat × Nat :=
  if lead = 0xE0 then (0xA0, 0xBF)
  else if lead = 0xED then (0x80, 0x9F)
  else if lead = 0xF0 then (0x90, 0xBF)
  else if lead = 0xF4 then (0x80, 0x8F)
  else (0x80, 0xBF)

/-- Whether the second byte of a sequence fits its first one. -/
def fitsSecond (lead : Nat) (b : UInt8) : Bool :=
  (secondRange lead).1 ≤ b.toNat && b.toNat ≤ (secondRange lead).2

/-- What a sequence that starts with the byte `b` holds: its character, or nothing if it is
ill-formed, and how many of the following bytes belong to it. -/
def scan (b : UInt8) (rest : List UInt8) : Option Char × Nat :=
  let lead := b.toNat
  if lead < 0x80 then (some (Char.ofNat lead), 0)
  else if lead < 0xC2 ∨ 0xF4 < lead then (none, 0)
  else match rest with
    | [] => (none, 0)
    | b₁ :: rest =>
      if !fitsSecond lead b₁ then (none, 0)
      else if lead < 0xE0 then
        (some (Char.ofNat ((lead - 0xC0) * 0x40 + (b₁.toNat - 0x80))), 1)
      else match rest with
        | [] => (none, 1)
        | b₂ :: rest =>
          match payload? b₂ with
          | none => (none, 1)
          | some p₂ =>
            if lead < 0xF0 then
              (some (Char.ofNat ((lead - 0xE0) * 0x1000 + (b₁.toNat - 0x80) * 0x40 + p₂)), 2)
            else match rest with
              | [] => (none, 2)
              | b₃ :: _ =>
                match payload? b₃ with
                | none => (none, 2)
                | some p₃ =>
                  (some (Char.ofNat
                    ((lead - 0xF0) * 0x40000 + (b₁.toNat - 0x80) * 0x1000 + p₂ * 0x40 + p₃)), 3)

/-- The characters of a well-formed sequence of bytes. -/
def decode (bytes : List UInt8) : Option (List Char) :=
  match bytes with
  | [] => some []
  | b :: rest =>
    match scan b rest with
    | (none, _) => none
    | (some c, n) => (decode (rest.drop n)).map (c :: ·)
termination_by bytes.length
decreasing_by simp only [List.length_drop, List.length_cons]; omega

/-- The characters of a sequence of bytes, with U+FFFD for what is ill-formed. -/
def decodeLossy (bytes : List UInt8) : List Char :=
  match bytes with
  | [] => []
  | b :: rest =>
    (scan b rest).1.getD '\uFFFD' :: decodeLossy (rest.drop (scan b rest).2)
termination_by bytes.length
decreasing_by simp only [List.length_drop, List.length_cons]; omega

end CommandVerbs.Text.Utf8
