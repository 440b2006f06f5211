import WikiPivot.Toml.Token
import WikiPivot.Toml.Value

/-! Numbers, truth values and moments of time. -/
namespace WikiPivot.Toml

def grouped? (isDigit : Char → Bool) (t : Text) : Option Text :=
  let groups := Text.pieces '_' t
  if groups.all fun group => !group.isEmpty && group.all isDigit then some groups.flatten else none

def cutSign (t : Text) : Bool × Text :=
  match t with
  | '-' :: rest => (true, rest)
  | '+' :: rest => (false, rest)
  | rest => (false, rest)

def whole? (t : Text) : Option Text :=
  if t.head? = some '0' ∧ 1 < t.length then none else grouped? Char.isDigit t

def signedWhole? (t : Text) : Option (Bool × Text) :=
  let (negative, digits) := cutSign t
  (whole? digits).map (negative, ·)

def valueIn (base : Nat) (digits : Text) : Nat :=
  digits.foldl (fun n c => base * n + (Text.hexValue? c).getD 0) 0

def radix? (t : Text) : Option Nat :=
  match t with
  | '0' :: 'x' :: digits => (grouped? (fun c => (Text.hexValue? c).isSome) digits).map (valueIn 16)
  | '0' :: 'o' :: digits => (grouped? (fun c => '0' ≤ c && c ≤ '7') digits).map (valueIn 8)
  | '0' :: 'b' :: digits => (grouped? (fun c => c == '0' || c == '1') digits).map (valueIn 2)
  | _ => none

def integer? (t : Text) : Option Int :=
  match radix? t with
  | some n => some n
  | none =>
    (signedWhole? t).map fun (negative, digits) =>
      let n : Int := valueIn 10 digits
      if negative then -n else n

def decimalText? (t : Text) : Option Text := do
  let mantissa := t.takeWhile fun c => c != 'e' && c != 'E'
  let power := t.drop mantissa.length
  let (negative, whole) ← signedWhole? (mantissa.takeWhile (· != '.'))
  let places ← match mantissa.dropWhile (· != '.') with
    | [] => some []
    | _ :: places => grouped? Char.isDigit places
  let power ← match power with
    | [] => if mantissa.contains '.' then some ['0'] else none
    | _ :: power =>
      let (negative, digits) := cutSign power
      (grouped? Char.isDigit digits).map fun digits => if negative then '-' :: digits else digits
  return (if negative then ['-'] else []) ++ whole ++ '.' :: places ++ 'e' :: power

def float? (t : Text) : Option (Option Binary64) :=
  let (negative, word) := cutSign t
  if word = "inf".toList then some (some (.infinite negative))
  else if word = "nan".toList then some (some .nan)
  else (decimalText? t).map fun decimal =>
    match Binary64.ofText? decimal with
    | some (.infinite _) => none
    | x => x

def digits? (count : Nat) (t : Text) : Option (Nat × Text) :=
  let digits := t.take count
  if digits.length = count ∧ digits.all Char.isDigit then some (valueIn 10 digits, t.drop count)
  else none

def daysIn (year month : Nat) : Nat :=
  if month = 2 then if year % 4 = 0 ∧ (year % 100 ≠ 0 ∨ year % 400 = 0) then 29 else 28
  else if [4, 6, 9, 11].contains month then 30
  else 31

def afterDate? (t : Text) : Option Text := do
  let (year, t) ← digits? 4 t
  let (month, t) ← digits? 2 (← Text.after? ['-'] t)
  let (day, t) ← digits? 2 (← Text.after? ['-'] t)
  if 1 ≤ month ∧ month ≤ 12 ∧ 1 ≤ day ∧ day ≤ daysIn year month then return t else none

def isDate (t : Text) : Bool := afterDate? t == some []

def afterSeconds? (t : Text) : Option Text := do
  let (second, t) ← digits? 2 t
  if 60 < second then none
  else match t with
    | '.' :: places =>
      if (places.takeWhile Char.isDigit).isEmpty then none
      else return places.dropWhile Char.isDigit
    | t => return t

/-- What follows a time of day, which may be without seconds. -/
def afterTime? (t : Text) : Option Text := do
  let (hour, t) ← digits? 2 t
  let (minute, t) ← digits? 2 (← Text.after? [':'] t)
  if 23 < hour ∨ 59 < minute then none
  else match t with
    | ':' :: t => afterSeconds? t
    | t => return t

def isOffset : Text → Bool
  | [] => true
  | ['Z'] => true
  | ['z'] => true
  | sign :: t =>
    (sign == '+' || sign == '-') &&
      match afterTime? t with
      | some [] => t.length == 5
      | _ => false

def isMoment (t : Text) : Bool :=
  match afterDate? t with
  | some [] => true
  | some (mark :: rest) =>
    (mark == 'T' || mark == 't' || mark == ' ') &&
      match afterTime? rest with
      | some offset => isOffset offset
      | none => false
  | none => afterTime? t == some []

def Value.ofScalar? (t : Text) : Option Value :=
  if t = "true".toList then some (.boolean true)
  else if t = "false".toList then some (.boolean false)
  else if isMoment t then some .moment
  else match integer? t with
    | some n => some (.integer n)
    | none => (float? t).map .float

end WikiPivot.Toml
