import WikiPivot.Text.Blank

/-! Directives embedded in a document.
A block begins at the start of a line with an opening line, four dashes or more, the word
`datatable`, class names and dashes again. It ends with the first later line that begins with four
dashes and does not stand directly under the opening line. -/
namespace WikiPivot

/-- A block's class names, its body lines, and the octets of the document from its opening line
through its closing dashes. -/
structure Block where
  classes : Text
  lines : List Text
  start : Nat
  stop : Nat
  deriving DecidableEq, Repr

namespace Block

def isDash (c : Char) : Bool := c == '-'

def isClassChar (c : Char) : Bool := c == ' ' || c == '_' || c.isAlphanum

def afterDashes? (least : Nat) (t : Text) : Option Text :=
  if least ≤ (t.takeWhile isDash).length then some (t.dropWhile isDash) else none

def afterLineEnd? : Text → Option Text
  | '\n' :: rest => some rest
  | '\r' :: '\n' :: rest => some rest
  | _ => none

/-- The class names may be missing, else a space parts them from the word before. -/
def classSuffix (t : Text) : Text :=
  match t with
  | ' ' :: _ => t.takeWhile isClassChar
  | _ => []

def opening? (t : Text) : Option (Text × Text) := do
  let indented ← afterDashes? 4 t
  let named ← Text.after? "datatable".toList (indented.dropWhile (· == ' '))
  let suffix := classSuffix named
  let dashed ← afterDashes? 1 (named.drop suffix.length)
  let body ← afterLineEnd? dashed
  return (suffix, body)

/-- The body before the first newline with four dashes after it, and what follows those dashes and
the dashes after them. -/
def closing? : Text → Option (Text × Text)
  | [] => none
  | c :: rest =>
    match if c = '\n' then afterDashes? 4 rest else none with
    | some after => some ([], after)
    | none => (closing? rest).map fun (body, after) => (c :: body, after)

/-- Body lines, each without its carriage return. The last one lost its line end with the closing
line and so may lose two. -/
def bodyLines (body : Text) : List Text :=
  (Text.pieces '\n' (Text.dropFinal '\r' body)).map (Text.dropFinal '\r')

def here? (offset : Nat) (t : Text) : Option (Block × Text) := do
  let (suffix, inner) ← opening? t
  let (body, after) ← closing? inner
  return (⟨Text.trim suffix, bodyLines body, offset, offset + (Text.octets t - Text.octets after)⟩,
    after)

def nextLine? (offset : Nat) : Text → Option (Nat × Text)
  | [] => none
  | c :: rest => if c = '\n' then some (offset + 1, rest) else nextLine? (offset + c.utf8Size) rest

theorem nextLine?_length {offset next : Nat} {t rest : Text}
    (h : nextLine? offset t = some (next, rest)) : rest.length < t.length := by
  induction t generalizing offset with
  | nil => simp [nextLine?] at h
  | cons c t ih =>
    simp only [nextLine?] at h
    split at h
    · simp only [Option.some.injEq, Prod.mk.injEq] at h
      simp [h.2]
    · have := ih h
      simp only [List.length_cons]
      omega

theorem afterDashes?_length {least : Nat} {t rest : Text} (h : afterDashes? least t = some rest) :
    rest.length ≤ t.length := by
  simp only [afterDashes?, Option.ite_none_right_eq_some, Option.some.injEq] at h
  exact h.2 ▸ (List.dropWhile_sublist _).length_le

theorem afterLineEnd?_length {t rest : Text} (h : afterLineEnd? t = some rest) :
    rest.length ≤ t.length := by
  unfold afterLineEnd? at h
  split at h
  · simp_all
  · simp only [Option.some.injEq] at h
    subst h
    simp only [List.length_cons]
    omega
  · simp at h

theorem closing?_length {t body after : Text} (h : closing? t = some (body, after)) :
    after.length ≤ t.length := by
  induction t generalizing body with
  | nil => simp [closing?] at h
  | cons c t ih =>
    simp only [closing?] at h
    split at h
    · next heq =>
      split at heq
      · have := afterDashes?_length heq
        simp_all
        omega
      · simp at heq
    · simp only [Option.map_eq_some_iff, Prod.mk.injEq, Prod.exists] at h
      obtain ⟨b, a, hb, _, rfl⟩ := h
      have := ih hb
      simp only [List.length_cons]
      omega

theorem opening?_length {t suffix inner : Text} (h : opening? t = some (suffix, inner)) :
    inner.length ≤ t.length := by
  simp only [opening?, Option.bind_eq_bind, Option.bind_eq_some_iff, Option.pure_def,
    Option.some.injEq, Prod.mk.injEq] at h
  obtain ⟨indented, h₁, named, h₂, dashed, h₃, body, h₄, _, rfl⟩ := h
  have h₁ := afterDashes?_length h₁
  have h₂ := Text.after?_length h₂
  have h₃ := afterDashes?_length h₃
  have h₄ := afterLineEnd?_length h₄
  have h₅ : (indented.dropWhile (· == ' ')).length ≤ indented.length :=
    (List.dropWhile_sublist _).length_le
  simp only [List.length_drop] at h₃
  omega

theorem here?_length {offset : Nat} {t after : Text} {block : Block}
    (h : here? offset t = some (block, after)) : after.length ≤ t.length := by
  simp only [here?, Option.bind_eq_bind, Option.bind_eq_some_iff, Option.pure_def,
    Option.some.injEq, Prod.mk.injEq, Prod.exists] at h
  obtain ⟨suffix, inner, h₁, body, after', h₂, _, rfl⟩ := h
  exact Nat.le_trans (closing?_length h₂) (opening?_length h₁)

/-- The blocks of a text that begins a line and stands at octet `offset`. A block ends in the middle
of a line, so the search goes on at the next one. -/
def scan (offset : Nat) (t : Text) : List Block :=
  match _h : here? offset t with
  | some (block, after) =>
    block :: match _k : nextLine? block.stop after with
      | some (next, rest) => scan next rest
      | none => []
  | none =>
    match _k : nextLine? offset t with
    | some (next, rest) => scan next rest
    | none => []
  termination_by t.length
  decreasing_by
    · exact Nat.lt_of_lt_of_le (nextLine?_length _k) (here?_length _h)
    · exact nextLine?_length _k

def find (document : Text) : List Block := scan 0 document

end Block

end WikiPivot
