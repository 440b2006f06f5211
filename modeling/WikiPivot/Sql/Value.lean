import WikiPivot.Decimal.Binary64
import WikiPivot.Text.Utf8

/-! The values of a database and the texts they are shown as. -/
namespace WikiPivot.Sql

inductive Value where
  | null
  | integer (n : Int)
  | real (x : Binary64)
  | text (octets : List UInt8)
  | blob (octets : List UInt8)
  deriving DecidableEq, Repr

/-- A missing value has no text, and what is no number is missing. -/
def Value.text? : Value → Option Text
  | null => none
  | integer n => some (Text.ofInt n)
  | real .nan => none
  | real x => some x.text
  | text octets => some (Text.ofOctets octets)
  | blob octets => some (Text.ofOctets octets)

end WikiPivot.Sql
