import WikiPivot.Text.Basic

/-! Texts as octets and octets as texts.
Octets that are no UTF-8 are read all the same: each longest beginning of a character that breaks
off becomes one replacement character, and so does each octet that begins none. -/
namespace WikiPivot.Text

def utf8 (t : Text) : List UInt8 := t.flatMap String.utf8EncodeChar

def replacement : Char := '\ufffd'

/-- A character of which octets are still owed: how many, the bounds of the next one, and the number
that the octets so far make up. -/
structure Begun where
  owed : Nat
  least : Nat
  greatest : Nat
  code : Nat
  deriving DecidableEq, Repr

inductive Progress where
  | done (c : Char)
  | begun (state : Begun)
  deriving DecidableEq, Repr

def firstOctet (b : Nat) : Progress :=
  if b < 0x80 then .done (Char.ofNat b)
  else if b < 0xC2 then .done replacement
  else if b < 0xE0 then .begun ⟨1, 0x80, 0xBF, b - 0xC0⟩
  else if b = 0xE0 then .begun ⟨2, 0xA0, 0xBF, 0⟩
  else if b = 0xED then .begun ⟨2, 0x80, 0x9F, b - 0xE0⟩
  else if b < 0xF0 then .begun ⟨2, 0x80, 0xBF, b - 0xE0⟩
  else if b = 0xF0 then .begun ⟨3, 0x90, 0xBF, 0⟩
  else if b < 0xF4 then .begun ⟨3, 0x80, 0xBF, b - 0xF0⟩
  else if b = 0xF4 then .begun ⟨3, 0x80, 0x8F, b - 0xF0⟩
  else .done replacement

def Begun.next? (state : Begun) (b : Nat) : Option Progress :=
  if state.least ≤ b ∧ b ≤ state.greatest then
    let code := state.code * 64 + (b - 0x80)
    some (if state.owed = 1 then .done (Char.ofNat code)
      else .begun ⟨state.owed - 1, 0x80, 0xBF, code⟩)
  else none

/-- Reads on from the middle of a character, or from between two. -/
def readOctets : Option Begun → List UInt8 → Text
  | none, [] => []
  | some _, [] => [replacement]
  | none, b :: rest =>
    match firstOctet b.toNat with
    | .done c => c :: readOctets none rest
    | .begun state => readOctets (some state) rest
  | some state, b :: rest =>
    match state.next? b.toNat with
    | some (.done c) => c :: readOctets none rest
    | some (.begun state) => readOctets (some state) rest
    | none =>
      replacement :: match firstOctet b.toNat with
        | .done c => c :: readOctets none rest
        | .begun state => readOctets (some state) rest

def ofOctets (octets : List UInt8) : Text := readOctets none octets

end WikiPivot.Text
