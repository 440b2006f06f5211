import WikiPivot.Text.Basic
import WikiPivot.Text.Case

/-! Lowercasing of a whole text.
Every character is mapped by itself except the capital sigma, which ends a word as `ς` and is `σ`
elsewhere, and the capital i with a dot, which becomes two characters. -/
namespace WikiPivot.Text

def capitalSigma : Char := 'Σ'

def meetsCased (t : Text) : Bool :=
  match t.dropWhile isCaseIgnorable with
  | [] => false
  | c :: _ => isCased c

def lowerChar (c : Char) : Text :=
  if c = 'İ' then ['i', '\u0307']
  else [match caseRuns.findSome? (·.lower? c.toNat) with
    | some code => Char.ofNat code
    | none => c]

/-- A capital sigma ends a word if a letter stands before it and none after it. -/
def lowerSigma (before after : Text) : Char :=
  if meetsCased before && !meetsCased after then 'ς' else 'σ'

def lowercaseAfter (before : Text) : Text → Text
  | [] => []
  | c :: rest =>
    (if c = capitalSigma then [lowerSigma before rest] else lowerChar c)
      ++ lowercaseAfter (c :: before) rest

def lowercase (t : Text) : Text := lowercaseAfter [] t

end WikiPivot.Text
