import WikiPivot.Text.Basic

/-! The order of texts is that of their UTF-8 octets, which is the order of code points. -/
namespace WikiPivot.Text

def notAfter : Text → Text → Bool
  | [], _ => true
  | _ :: _, [] => false
  | c :: s, d :: t => c.toNat < d.toNat || (c == d && notAfter s t)

def missingFirst : Option Text → Option Text → Bool
  | none, _ => true
  | some _, none => false
  | some s, some t => notAfter s t

end WikiPivot.Text
