import WikiPivot.Text.Basic

/-! Binary fractions of 53 bits, read from decimals and written as decimals.
A decimal is rounded to the nearest fraction, a tie to the even one. A fraction is written with the
fewest digits that are rounded back to it, and of those with the nearest ones, a tie going up. All
of it is arithmetic on natural numbers. -/
namespace WikiPivot

/-- A finite number is `mantissa * 2 ^ exponent`, up to its sign. -/
inductive Binary64 where
  | nan
  | infinite (negative : Bool)
  | finite (negative : Bool) (mantissa : Nat) (exponent : Int)
  deriving DecidableEq, Repr

namespace Binary64

def precision : Nat := 53

def leastExponent : Int := -1074

def greatestExponent : Int := 971

def twoTo (exponent : Int) : Nat := Nat.pow 2 exponent.toNat

def tenTo (exponent : Int) : Nat := Nat.pow 10 exponent.toNat

def mantissaBound : Nat := twoTo precision

def roundedQuotient (num den : Nat) : Nat :=
  let quotient := num / den
  let twice := 2 * (num % den)
  if den < twice ∨ (twice = den ∧ quotient % 2 = 1) then quotient + 1 else quotient

def scaled (num den : Nat) (exponent : Int) : Nat × Nat :=
  (num * twoTo (-exponent), den * twoTo exponent)

def ofQuotient (negative : Bool) (num den : Nat) : Binary64 :=
  let guess := max ((num.log2 : Int) - den.log2 - precision) leastExponent
  let (n, d) := scaled num den guess
  let exponent := if mantissaBound ≤ n / d then guess + 1 else guess
  let (n, d) := scaled num den exponent
  let mantissa := roundedQuotient n d
  let (mantissa, exponent) :=
    if mantissa = mantissaBound then (mantissaBound / 2, exponent + 1) else (mantissa, exponent)
  if greatestExponent < exponent then infinite negative else finite negative mantissa exponent

/-- The fraction nearest to `digits * 10 ^ power`. Beyond 310 places every number is infinite, and
below 400 places it is zero. -/
def ofDecimal (negative : Bool) (digits : Nat) (power : Int) : Binary64 :=
  let places := ((Text.ofNat digits).length : Int) + power
  if digits = 0 ∨ places < -400 then finite negative 0 leastExponent
  else if 310 < places then infinite negative
  else ofQuotient negative (digits * tenTo power) (tenTo (-power))

def digitValue (c : Char) : Nat := c.toNat - 48

def digitsValue (t : Text) : Nat := t.foldl (fun n c => 10 * n + digitValue c) 0

def power? : Text → Option Int
  | [] => some 0
  | e :: rest =>
    if e != 'e' && e != 'E' then none
    else
      let (negative, digits) := match rest with
        | '-' :: digits => (true, digits)
        | '+' :: digits => (false, digits)
        | digits => (false, digits)
      if digits.isEmpty || !digits.all Char.isDigit then none
      else if negative then some (-(digitsValue digits : Int)) else some (digitsValue digits)

def ofUnsigned? (negative : Bool) (t : Text) : Option Binary64 :=
  let whole := t.takeWhile Char.isDigit
  let rest := t.dropWhile Char.isDigit
  let (places, rest) := match rest with
    | '.' :: rest => (rest.takeWhile Char.isDigit, rest.dropWhile Char.isDigit)
    | rest => ([], rest)
  if whole.isEmpty && places.isEmpty then none
  else (power? rest).map fun power =>
    ofDecimal negative (digitsValue (whole ++ places)) (power - places.length)

def ofText? (t : Text) : Option Binary64 :=
  let (negative, rest) := match t with
    | '-' :: rest => (true, rest)
    | '+' :: rest => (false, rest)
    | rest => (false, rest)
  let word := Text.asciiLowercase rest
  if word = "inf".toList ∨ word = "infinity".toList then some (infinite negative)
  else if word = "nan".toList then some nan
  else ofUnsigned? negative rest

structure Decimal where
  digits : Nat
  power : Int
  deriving DecidableEq, Repr

/-- A fraction and the numbers that are rounded to it, all in quarters of the last bit of the
mantissa. The ends `low` and `high` are rounded to it as well if the mantissa is even. Below a power
of two the fractions lie twice as close as above. -/
structure Neighbourhood where
  low : Nat
  value : Nat
  high : Nat
  withEnds : Bool
  deriving DecidableEq, Repr

def neighbourhood (mantissa : Nat) (exponent : Int) : Neighbourhood :=
  { low := 4 * mantissa -
      if mantissa = mantissaBound / 2 ∧ leastExponent < exponent then 1 else 2
    value := 4 * mantissa
    high := 4 * mantissa + 2
    withEnds := mantissa % 2 = 0 }

def Neighbourhood.has (near : Neighbourhood) (unit quarter digits : Nat) : Bool :=
  let point := digits * unit
  let low := near.low * quarter
  let high := near.high * quarter
  if near.withEnds then low ≤ point && point ≤ high else low < point && point < high

/-- The digits of the decimal in units of `10 ^ power` that is rounded to the fraction; of two such
the nearer, and of two as near the greater. -/
def digitsAt? (mantissa : Nat) (exponent power : Int) : Option Nat :=
  let near := neighbourhood mantissa exponent
  let twos := exponent - 2
  let quarter := twoTo twos * tenTo (-power)
  let unit := tenTo power * twoTo (-twos)
  let value := near.value * quarter
  let below := value / unit
  let above := below + 1
  let belowFits := near.has unit quarter below
  let aboveFits := near.has unit quarter above
  if belowFits && (!aboveFits || value - below * unit < above * unit - value) then some below
  else if aboveFits then some above
  else none

def places (mantissa : Nat) (exponent : Int) : Int :=
  -- no fraction but zero is less than `10 ^ -400`
  let lifted := mantissa * tenTo 400 * twoTo exponent / twoTo (-exponent)
  ((Text.ofNat lifted).length : Int) - 400

def exact (mantissa : Nat) (exponent : Int) : Decimal :=
  ⟨mantissa * twoTo exponent * tenTo (-exponent) / twoTo (-exponent), min exponent 0⟩

def Decimal.withoutZero (decimal : Decimal) : Decimal :=
  if decimal.digits % 10 = 0 then ⟨decimal.digits / 10, decimal.power + 1⟩ else decimal

/-- The fewest digits that are rounded back; seventeen always are. A fraction just below a power of
ten may be rounded up to it. -/
def shortest (mantissa : Nat) (exponent : Int) : Decimal :=
  let first := places mantissa exponent
  let found := (List.range 17).findSome? fun (n : Nat) =>
    let power := first - (n + 1 : Nat)
    (digitsAt? mantissa exponent power).map fun digits => Decimal.withoutZero ⟨digits, power⟩
  found.getD (exact mantissa exponent)

def Decimal.text (decimal : Decimal) : Text :=
  let digits := Text.ofNat decimal.digits
  let after := (-decimal.power).toNat
  if 0 ≤ decimal.power then digits ++ List.replicate decimal.power.toNat '0'
  else if after < digits.length then
    digits.take (digits.length - after) ++ '.' :: digits.drop (digits.length - after)
  else '0' :: '.' :: List.replicate (after - digits.length) '0' ++ digits

def text : Binary64 → Text
  | nan => "NaN".toList
  | infinite negative => (if negative then ['-'] else []) ++ "inf".toList
  | finite negative mantissa exponent =>
    (if negative then ['-'] else []) ++
      if mantissa = 0 then ['0'] else (shortest mantissa exponent).text

end Binary64

end WikiPivot
