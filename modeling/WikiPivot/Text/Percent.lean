import WikiPivot.Text.Utf8

/-! Percent-encoding: letters and digits of ASCII and `-`, `_`, `.` and `~` stand for themselves,
and every other octet is a percent sign and two capital hexadecimal digits. Decoding takes small
digits too. -/
namespace WikiPivot.Text

def hexDigit (n : Nat) : Char := Char.ofNat (if n < 10 then 48 + n else 55 + n)

def isUnreserved (c : Char) : Bool :=
  c.isAlphanum || c == '-' || c == '_' || c == '.' || c == '~'

def percentOctet (b : UInt8) : Text :=
  let c := Char.ofNat b.toNat
  if isUnreserved c then [c] else ['%', hexDigit (b.toNat / 16), hexDigit (b.toNat % 16)]

def percentEncode (t : Text) : Text := (utf8 t).flatMap percentOctet

def hexValue? (c : Char) : Option Nat :=
  if '0' ≤ c ∧ c ≤ '9' then some (c.toNat - 48)
  else if 'a' ≤ c ∧ c ≤ 'f' then some (c.toNat - 87)
  else if 'A' ≤ c ∧ c ≤ 'F' then some (c.toNat - 55)
  else none

/-- The octets of a text in which a percent sign before two hexadecimal digits stands for an octet,
up to one that is zero. -/
def percentOctets : Text → List UInt8
  | [] => []
  | '%' :: a :: b :: rest =>
    match hexValue? a, hexValue? b with
    | some 0, some 0 => []
    | some high, some low => UInt8.ofNat (16 * high + low) :: percentOctets rest
    | _, _ => UInt8.ofNat 37 :: percentOctets (a :: b :: rest)
  | c :: rest => utf8 [c] ++ percentOctets rest

def percentDecode (t : Text) : Text := ofOctets (percentOctets t)

end WikiPivot.Text
