/-!
# UTF-8

Texts as bytes and bytes as texts. Decoding is a machine that takes one byte at a time: it is
either between characters or has read the beginning of one and knows which bytes may follow. A
byte that may not follow ends the unfinished character, which counts as one undecodable
stretch, and is then read again as a first byte. So a stretch of undecodable bytes is as long as
the longest beginning of a character in it.
-/

namespace WebMount

/-- A byte string. -/
abbrev Bytes := List UInt8

namespace Utf8

/-- The bytes of a text. -/
def encode (s : List Char) : Bytes :=
  s.flatMap String.utf8EncodeChar

/-- The bytes of a text. -/
def ofString (s : String) : Bytes :=
  encode s.toList

/-- The beginning of a character of several bytes: the bits read so far, the number of bytes that
are missing, and the least and the greatest value of the next one. -/
structure Unfinished where
  bits : Nat
  missing : Nat
  least : UInt8
  greatest : UInt8
  deriving DecidableEq, Repr

/-- What a first byte says: a whole character, the beginning of one, or nothing. -/
def first (b : UInt8) : List (Option Char) × Option Unfinished :=
  if b < 0x80 then ([some (Char.ofNat b.toNat)], none)
  else if b < 0xC2 then ([none], none)
  else if b < 0xE0 then ([], some ⟨b.toNat % 32, 1, 0x80, 0xBF⟩)
  else if b = 0xE0 then ([], some ⟨b.toNat % 16, 2, 0xA0, 0xBF⟩)
  else if b = 0xED then ([], some ⟨b.toNat % 16, 2, 0x80, 0x9F⟩)
  else if b < 0xF0 then ([], some ⟨b.toNat % 16, 2, 0x80, 0xBF⟩)
  else if b = 0xF0 then ([], some ⟨b.toNat % 8, 3, 0x90, 0xBF⟩)
  else if b < 0xF4 then ([], some ⟨b.toNat % 8, 3, 0x80, 0xBF⟩)
  else if b = 0xF4 then ([], some ⟨b.toNat % 8, 3, 0x80, 0x8F⟩)
  else ([none], none)

/-- One step of the decoder: the characters that `b` completes, an undecodable stretch being
`none`, and what is unfinished after it. -/
def step (state : Option Unfinished) (b : UInt8) : List (Option Char) × Option Unfinished :=
  match state with
  | none => first b
  | some u =>
    if u.least ≤ b ∧ b ≤ u.greatest then
      let bits := u.bits * 64 + b.toNat % 64
      match u.missing with
      | 0 | 1 => ([some (Char.ofNat bits)], none)
      | m + 1 => ([], some ⟨bits, m, 0x80, 0xBF⟩)
    else
      let (done, state) := first b
      (none :: done, state)

/-- The characters of `bytes` read from `state`, with one `none` for each undecodable stretch. -/
def decodeFrom (state : Option Unfinished) : Bytes → List (Option Char)
  | [] => if state.isSome then [none] else []
  | b :: bytes =>
    let (done, state) := step state b
    done ++ decodeFrom state bytes

/-- The text of a byte string without undecodable stretches. -/
def decode? (bytes : Bytes) : Option (List Char) :=
  (decodeFrom none bytes).mapM id

/-- The text of a byte string, with U+FFFD for each undecodable stretch. -/
def decodeLossy (bytes : Bytes) : List Char :=
  (decodeFrom none bytes).map fun c => c.getD '\ufffd'

end Utf8

end WebMount
