/-! Text as a list of characters, read from the front.
Cutting at a character or at a separator loses nothing: joining the pieces gives the text back.
Positions in a document are counted in UTF-8 octets. -/
namespace WikiPivot

abbrev Text := List Char

namespace Text

def octets : Text → Nat
  | [] => 0
  | c :: rest => c.utf8Size + octets rest

def pieces (mark : Char) : Text → List Text
  | [] => [[]]
  | c :: rest =>
    if c = mark then [] :: pieces mark rest else (pieces mark rest).modifyHead (c :: ·)

def cut? (mark : Char) : Text → Option (Text × Text)
  | [] => none
  | c :: rest =>
    if c = mark then some ([], rest)
    else (cut? mark rest).map fun (left, right) => (c :: left, right)

def after? : Text → Text → Option Text
  | [], t => some t
  | _ :: _, [] => none
  | c :: start, d :: t => if c = d then after? start t else none

theorem after?_length {start t rest : Text} (h : after? start t = some rest) :
    t.length = start.length + rest.length := by
  induction start generalizing t with
  | nil =>
    simp only [after?, Option.some.injEq] at h
    simp [h]
  | cons c start ih =>
    cases t with
    | nil => simp [after?] at h
    | cons d t =>
      simp only [after?, Option.ite_none_right_eq_some] at h
      have := ih h.2
      simp only [List.length_cons]
      omega

/-- The pieces between the occurrences of the separator `mark :: more`, taken from the left without
overlap. -/
def sections (mark : Char) (more : Text) : Text → List Text
  | [] => [[]]
  | c :: rest =>
    match _h : after? (mark :: more) (c :: rest) with
    | some after => [] :: sections mark more after
    | none => (sections mark more rest).modifyHead (c :: ·)
  termination_by t => t.length
  decreasing_by
    · have := after?_length _h
      simp only [List.length_cons] at this ⊢
      omega
    · simp

/-- The text without one `mark` at its end. -/
def dropFinal (mark : Char) (t : Text) : Text :=
  if t.getLast? = some mark then t.dropLast else t

/-- Lines as an editor counts them: each ends at a newline, with or without a carriage return before
it, and what follows the last newline is a line only if it is not empty. -/
def lines (t : Text) : List Text :=
  let all := pieces '\n' t
  let closed := all.dropLast.map (dropFinal '\r')
  match all.getLast? with
  | some [] => closed
  | some last => closed ++ [last]
  | none => closed

def ofNat (n : Nat) : Text :=
  if n < 10 then [Char.ofNat (48 + n)] else ofNat (n / 10) ++ [Char.ofNat (48 + n % 10)]

def ofInt (n : Int) : Text :=
  if n < 0 then '-' :: ofNat n.natAbs else ofNat n.natAbs

def asciiLowercase (t : Text) : Text := t.map Char.toLower

def replaceChar (mark : Char) (part : Text) : Text → Text
  | [] => []
  | c :: rest => (if c = mark then part else [c]) ++ replaceChar mark part rest

def unescape (mark : Char) : Text → Text
  | [] => []
  | [c] => [c]
  | c :: d :: rest =>
    if c = '\\' ∧ d = mark then mark :: unescape mark rest else c :: unescape mark (d :: rest)

end Text

end WikiPivot
