import WikiPivot.Text.Basic
import WikiPivot.Text.Ranges

/-! White space is what has the property White_Space, and trimming takes it off both ends. -/
namespace WikiPivot.Text

def blankRanges : CharRanges := [
  (0x9, 0xD), (0x20, 0x20), (0x85, 0x85), (0xA0, 0xA0), (0x1680, 0x1680), (0x2000, 0x200A),
  (0x2028, 0x2029), (0x202F, 0x202F), (0x205F, 0x205F), (0x3000, 0x3000)
]

def isBlank (c : Char) : Bool := blankRanges.has c

def trimLeft (t : Text) : Text := t.dropWhile isBlank

def trimRight (t : Text) : Text := (t.reverse.dropWhile isBlank).reverse

def trim (t : Text) : Text := trimRight (trimLeft t)

def firstWord (t : Text) : Text × Text :=
  (t.takeWhile (!isBlank ·), (t.dropWhile (!isBlank ·)).drop 1)

end WikiPivot.Text
