/-
UTF-8 text as bytes.

A decoder reads one byte at a time.  Between characters any byte may come that starts one; after
a leading byte so many continuation bytes are owed, the first of them from a range that leaves out
overlong forms, surrogates and numbers above the last code point.  `decode` stops at the first
fault and says where it is; `decodeLossy` puts a replacement character in the place of each fault.
-/
namespace FileTriage.Text.Utf8

/-- Why bytes are not UTF-8 text. -/
inductive Fault where
  /-- The bytes from `index` on, `length` of them, start no character. -/
  | invalid (length index : Nat)
  /-- The text ends inside the character that starts at `index`. -/
  | incomplete (index : Nat)
deriving DecidableEq, Repr

/-- The wording of a fault. -/
def Fault.message : Fault → String
  | .invalid length index => s!"invalid utf-8 sequence of {length} bytes from index {index}"
  | .incomplete index => s!"incomplete utf-8 byte sequence from index {index}"

/-- A character of which the leading byte has been read. -/
structure Pending where
  /-- Where the character starts. -/
  start : Nat
  /-- The bits read so far. -/
  value : Nat
  /-- How many continuation bytes are still owed. -/
  owed : Nat
  /-- The least byte that may come next. -/
  low : UInt8
  /-- The greatest byte that may come next. -/
  high : UInt8

/-- What a byte between characters does. -/
inductive Opening where
  | whole (c : Char)
  | leading (p : Pending)
  | stray

/-- Reads the byte at `index` between characters. -/
def openAt (index : Nat) (b : UInt8) : Opening :=
  if b < 0x80 then .whole (Char.ofNat b.toNat)
  else if 0xC2 ≤ b ∧ b ≤ 0xDF then .leading ⟨index, b.toNat - 0xC0, 1, 0x80, 0xBF⟩
  else if b = 0xE0 then .leading ⟨index, 0, 2, 0xA0, 0xBF⟩
  else if b = 0xED then .leading ⟨index, 0xD, 2, 0x80, 0x9F⟩
  else if 0xE1 ≤ b ∧ b ≤ 0xEF then .leading ⟨index, b.toNat - 0xE0, 2, 0x80, 0xBF⟩
  else if b = 0xF0 then .leading ⟨index, 0, 3, 0x90, 0xBF⟩
  else if 0xF1 ≤ b ∧ b ≤ 0xF3 then .leading ⟨index, b.toNat - 0xF0, 3, 0x80, 0xBF⟩
  else if b = 0xF4 then .leading ⟨index, 4, 3, 0x80, 0x8F⟩
  else .stray

/-- The character after one more continuation byte. -/
def Pending.extend (p : Pending) (b : UInt8) : Pending :=
  { p with value := p.value * 64 + (b.toNat - 0x80), owed := p.owed - 1, low := 0x80, high := 0xBF }

/-- Decodes from a state: `index` is the position of the next byte, `pending` the open character. -/
def decodeFrom (index : Nat) (pending : Option Pending) : List UInt8 → Except Fault (List Char)
  | [] =>
    match pending with
    | none => .ok []
    | some p => .error (.incomplete p.start)
  | b :: rest =>
    match pending with
    | none =>
      match openAt index b with
      | .whole c => (decodeFrom (index + 1) none rest).map (c :: ·)
      | .leading p => decodeFrom (index + 1) (some p) rest
      | .stray => .error (.invalid 1 index)
    | some p =>
      if p.low ≤ b ∧ b ≤ p.high then
        if p.owed = 1 then
          (decodeFrom (index + 1) none rest).map (Char.ofNat (p.extend b).value :: ·)
        else decodeFrom (index + 1) (some (p.extend b)) rest
      else .error (.invalid (index - p.start) p.start)

/-- The text that bytes spell, or the first fault in them. -/
def decode (bytes : List UInt8) : Except Fault String :=
  (decodeFrom 0 none bytes).map String.ofList

/-- The replacement character. -/
def replacement : Char := '\uFFFD'

/-- Decodes from a state, writing a replacement character for each fault. -/
def lossyFrom (pending : Option Pending) : List UInt8 → List Char
  | [] => if pending.isSome then [replacement] else []
  | b :: rest =>
    let opened := match openAt 0 b with
      | .whole c => c :: lossyFrom none rest
      | .leading p => lossyFrom (some p) rest
      | .stray => replacement :: lossyFrom none rest
    match pending with
    | none => opened
    | some p =>
      if p.low ≤ b ∧ b ≤ p.high then
        if p.owed = 1 then Char.ofNat (p.extend b).value :: lossyFrom none rest
        else lossyFrom (some (p.extend b)) rest
      else replacement :: opened

/-- The text that bytes spell, with a replacement character for each fault. -/
def decodeLossy (bytes : List UInt8) : String := String.ofList (lossyFrom none bytes)

/-- The bytes of text. -/
def encode (text : String) : List UInt8 := text.toList.flatMap String.utf8EncodeChar

end FileTriage.Text.Utf8
