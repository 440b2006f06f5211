import WikiPivot.Text.Basic

/-! Patterns of the `LIKE` comparison: `%` stands for any run of characters and `_` for one. Letters
of ASCII are alike in both cases; every other character stands for itself.

This is an assumed reading of the engine's comparison. It takes values whole and patterns of any
length. The engine reads a value only as far as its first NUL character, so it may find another
answer for a value that holds one, and it refuses a pattern that is longer than its limit. -/
namespace WikiPivot.Sql

/-- How a text meets a pattern. If it is exhausted before the pattern is, no end of it fits either,
so a run that leads there need not be tried longer. -/
inductive Fit where
  | fits
  | differs
  | exhausted
  deriving DecidableEq, Repr

/-- The fit of the longest end of the text that does not merely differ, the whole and the empty one
included. -/
def firstFit (fit : Text → Fit) : Text → Fit
  | [] => fit []
  | c :: rest =>
    match fit (c :: rest) with
    | .differs => firstFit fit rest
    | found => found

def fit : Text → Text → Fit
  | [], [] => .fits
  | [], _ :: _ => .differs
  | '%' :: pattern, t => firstFit (fit pattern) t
  | _ :: _, [] => .exhausted
  | p :: pattern, c :: t =>
    if p == '_' || p.toLower == c.toLower then fit pattern t else .differs

def like (pattern t : Text) : Bool := fit pattern t == .fits

end WikiPivot.Sql
