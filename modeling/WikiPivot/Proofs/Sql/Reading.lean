import WikiPivot.Sql.Token
import WikiPivot.Proofs.Text.Decimal
import Mathlib.Data.List.Basic

/-! # Reading a statement by its quotes

A reader takes a statement character by character. A quote mark opens a token that ends at the first
mark of its kind without another one behind it; two marks inside stand for one. A list of tokens
whose quoted members end before a character that is no mark is read back as it was meant.
-/
namespace WikiPivot.Sql

inductive Quote where
  | literal
  | identifier
  deriving DecidableEq, Repr

def Quote.mark : Quote → Char
  | literal => '\''
  | identifier => '"'

def Quote.ofChar? (c : Char) : Option Quote :=
  if c = '\'' then some .literal else if c = '"' then some .identifier else none

inductive Piece where
  | plain (c : Char)
  | quoted (quote : Quote) (content : Text)
  deriving DecidableEq, Repr

inductive Standing where
  | outside
  | inside (quote : Quote) (content : Text)
  deriving DecidableEq, Repr

/-- Reads on. A text that ends inside a quote has no reading. -/
def readFrom : Standing → Text → Option (List Piece)
  | .outside, [] => some []
  | .inside _ _, [] => none
  | .outside, c :: rest =>
    match Quote.ofChar? c with
    | some quote => readFrom (.inside quote []) rest
    | none => (readFrom .outside rest).map (.plain c :: ·)
  | .inside quote content, [c] => if c = quote.mark then some [.quoted quote content] else none
  | .inside quote content, c :: d :: rest =>
    if c ≠ quote.mark then readFrom (.inside quote (content ++ [c])) (d :: rest)
    else if d = quote.mark then readFrom (.inside quote (content ++ [c])) rest
    else (readFrom .outside (d :: rest)).map (.quoted quote content :: ·)

def read (t : Text) : Option (List Piece) := readFrom .outside t

namespace Piece

def literal? : Piece → Option Text
  | quoted .literal content => some content
  | _ => none

def identifier? : Piece → Option Text
  | quoted .identifier content => some content
  | _ => none

def blanked : Piece → Piece
  | quoted .literal _ => quoted .literal []
  | piece => piece

end Piece

def literals (pieces : List Piece) : List Text := pieces.filterMap Piece.literal?

def identifiers (pieces : List Piece) : List Text := pieces.filterMap Piece.identifier?

def outline (pieces : List Piece) : List Piece := pieces.map Piece.blanked

/-- A text that does not go on with a quote mark, so that a quoted token before it has ended. -/
def Calm (t : Text) : Prop := ∀ c ∈ t.head?, Quote.ofChar? c = none

def Unquoted (t : Text) : Prop := ∀ c ∈ t, Quote.ofChar? c = none

theorem ofChar?_mark (quote : Quote) : Quote.ofChar? quote.mark = some quote := by
  cases quote <;> rfl

@[simp] theorem calm_nil : Calm [] := by
  intro c hc
  cases hc

@[simp] theorem calm_cons {c : Char} {t : Text} : Calm (c :: t) ↔ Quote.ofChar? c = none := by
  simp [Calm]

@[simp] theorem unquoted_nil : Unquoted [] := by
  intro c hc
  cases hc

@[simp] theorem unquoted_cons {c : Char} {t : Text} :
    Unquoted (c :: t) ↔ Quote.ofChar? c = none ∧ Unquoted t := List.forall_mem_cons

theorem calm_append {s t : Text} (hs : Calm s) (ht : Calm t) : Calm (s ++ t) := by
  cases s with
  | nil => exact ht
  | cons c s => exact hs

theorem Unquoted.calm {t : Text} (h : Unquoted t) : Calm t := by
  intro c hc
  exact h c (List.mem_of_mem_head? hc)

theorem read_unquoted {t : Text} (h : Unquoted t) (rest : Text) :
    read (t ++ rest) = (read rest).map (t.map Piece.plain ++ ·) := by
  induction t with
  | nil => simp
  | cons c t ih =>
    have hc : Quote.ofChar? c = none := h c List.mem_cons_self
    have ht := ih fun d hd => h d (List.mem_cons_of_mem _ hd)
    simp only [read] at ht ⊢
    simp [readFrom, hc, ht, Function.comp_def]

theorem readFrom_inside_cons {quote : Quote} {c : Char} (h : c ≠ quote.mark) (content t : Text) :
    readFrom (.inside quote content) (c :: t) = readFrom (.inside quote (content ++ [c])) t := by
  cases t <;> simp [readFrom, h]

/-- Doubled marks are read as one each, and the mark behind them ends the token. -/
theorem readFrom_doubled (quote : Quote) (content t : Text) {rest : Text} (h : Calm rest) :
    readFrom (.inside quote content) (doubled quote.mark t ++ quote.mark :: rest) =
      (read rest).map (.quoted quote (content ++ t) :: ·) := by
  induction t generalizing content with
  | nil =>
    cases rest with
    | nil => simp [doubled, Text.replaceChar, readFrom, read]
    | cons d rest =>
      have hd : d ≠ quote.mark := by
        rintro rfl
        have := h _ rfl
        simp [ofChar?_mark] at this
      simp [doubled, Text.replaceChar, readFrom, read, hd]
  | cons c t ih =>
    -- the content read so far grows by one character, whether it was written once or twice
    have step := ih (content ++ [c])
    rw [List.append_assoc, List.singleton_append] at step
    simp only [doubled] at step ⊢
    by_cases hc : c = quote.mark
    · subst c
      rw [← step]
      simp [Text.replaceChar, readFrom]
    · rw [← step]
      simp only [Text.replaceChar, hc, if_false, List.cons_append]
      exact readFrom_inside_cons hc _ _

theorem read_quoted (quote : Quote) (t : Text) {rest : Text} (h : Calm rest) :
    read (quote.mark :: doubled quote.mark t ++ quote.mark :: rest) =
      (read rest).map (.quoted quote t :: ·) := by
  have := readFrom_doubled quote [] t h
  simpa [read, readFrom, ofChar?_mark] using this

namespace Token

def pieces : Token → List Piece
  | word text => text.map .plain
  | name text => [.quoted .identifier text]
  | joined slot => (Joins.aliasAt slot).map .plain
  | value literal => [.quoted .literal literal.value]

def Fits (after : Text) : Token → Prop
  | word text => Unquoted text
  | joined _ => True
  | name _ | value _ => Calm after

end Token

namespace Token

def literal? : Token → Option Text
  | value literal => some literal.value
  | _ => none

def name? : Token → Option Text
  | name text => some text
  | _ => none

def blanked : Token → Token
  | value _ => value ⟨[]⟩
  | token => token

end Token

def Readable : List Token → Prop
  | [] => True
  | token :: rest => token.Fits (text rest) ∧ Readable rest

@[simp] theorem readable_nil : Readable [] := trivial

@[simp] theorem readable_word {t : Text} {rest : List Token} :
    Readable (.word t :: rest) ↔ Unquoted t ∧ Readable rest := Iff.rfl

@[simp] theorem readable_joined {slot : Nat} {rest : List Token} :
    Readable (.joined slot :: rest) ↔ Readable rest := and_iff_right trivial

@[simp] theorem readable_name {t : Text} {rest : List Token} :
    Readable (.name t :: rest) ↔ Calm (text rest) ∧ Readable rest := Iff.rfl

@[simp] theorem readable_value {literal : Literal} {rest : List Token} :
    Readable (.value literal :: rest) ↔ Calm (text rest) ∧ Readable rest := Iff.rfl

theorem unquoted_ofNat (n : Nat) : Unquoted (Text.ofNat n) := by
  intro c hc
  obtain ⟨d, hd, rfl⟩ := Text.digit_of_mem_ofNat hc
  interval_cases d <;> rfl

theorem unquoted_aliasAt (slot : Nat) : Unquoted (Joins.aliasAt slot) := by
  intro c hc
  rcases List.mem_cons.mp hc with rfl | hc
  · rfl
  · exact unquoted_ofNat _ c hc

@[simp] theorem text_nil : text [] = [] := rfl

@[simp] theorem text_cons (token : Token) (rest : List Token) :
    text (token :: rest) = token.text ++ text rest := rfl

@[simp] theorem text_append (a b : List Token) : text (a ++ b) = text a ++ text b := by
  simp [text]

theorem read_text {tokens : List Token} (h : Readable tokens) :
    read (text tokens) = some (tokens.flatMap Token.pieces) := by
  induction tokens with
  | nil => rfl
  | cons token rest ih =>
    obtain ⟨hfits, hrest⟩ := h
    rw [text_cons, List.flatMap_cons]
    cases token with
    | word t => simp [Token.text, Token.pieces, read_unquoted hfits, ih hrest]
    | joined slot =>
      simp [Token.text, Token.pieces, read_unquoted (unquoted_aliasAt slot), ih hrest]
    | name t =>
      have := read_quoted .identifier t hfits
      simp_all [Token.text, Token.pieces, identifier, Quote.mark]
    | value literal =>
      have := read_quoted .literal literal.value hfits
      simp_all [Token.text, Token.pieces, Literal.quoted, Literal.body, Quote.mark]

theorem filterMap_pieces {f : Piece → Option Text} {g : Token → Option Text}
    (h : ∀ token, token.pieces.filterMap f = (g token).toList) (tokens : List Token) :
    (tokens.flatMap Token.pieces).filterMap f = tokens.filterMap g := by
  rw [List.filterMap_flatMap, List.filterMap_eq_flatMap_toList]
  exact List.flatMap_congr fun token _ => h token

theorem literals_pieces (tokens : List Token) :
    literals (tokens.flatMap Token.pieces) = tokens.filterMap Token.literal? := by
  apply filterMap_pieces
  intro token
  cases token <;> simp [Token.pieces, Token.literal?, Piece.literal?, List.filterMap_cons,
    List.filterMap_map, Function.comp_def]

theorem identifiers_pieces (tokens : List Token) :
    identifiers (tokens.flatMap Token.pieces) = tokens.filterMap Token.name? := by
  apply filterMap_pieces
  intro token
  cases token <;> simp [Token.pieces, Token.name?, Piece.identifier?, List.filterMap_cons,
    List.filterMap_map, Function.comp_def]

theorem outline_pieces (tokens : List Token) :
    outline (tokens.flatMap Token.pieces) = (tokens.map Token.blanked).flatMap Token.pieces := by
  induction tokens with
  | nil => rfl
  | cons token rest ih =>
    simp only [outline] at ih
    cases token <;>
      simp [outline, ih, Token.pieces, Token.blanked, Piece.blanked, Function.comp_def]

theorem readable_append {a b : List Token} (ha : Readable a) (hb : Readable b)
    (hcalm : Calm (text b)) : Readable (a ++ b) := by
  induction a with
  | nil => exact hb
  | cons token rest ih =>
    refine ⟨?_, ih ha.2⟩
    cases token with
    | word t => exact ha.1
    | joined slot => trivial
    | name t =>
      have := calm_append ha.1 hcalm
      rwa [← text_append] at this
    | value literal =>
      have := calm_append ha.1 hcalm
      rwa [← text_append] at this

theorem readable_parted {mark : Text} (hm : Unquoted mark) (hne : mark ≠ [])
    {parts : List (List Token)} (h : ∀ part ∈ parts, Readable part) :
    Readable (parted mark parts) := by
  induction parts with
  | nil => trivial
  | cons part rest ih =>
    have hpart := h part List.mem_cons_self
    have hrest := ih fun p hp => h p (List.mem_cons_of_mem _ hp)
    cases rest with
    | nil => exact hpart
    | cons next rest =>
      refine readable_append hpart ⟨hm, hrest⟩ ?_
      cases mark with
      | nil => exact absurd rfl hne
      | cons c mark => exact hm.calm

theorem mem_parted {mark : Text} {parts : List (List Token)} {token : Token}
    (h : token ∈ parted mark parts) : token = .word mark ∨ ∃ part ∈ parts, token ∈ part := by
  induction parts with
  | nil => cases h
  | cons part rest ih =>
    cases rest with
    | nil => exact Or.inr ⟨part, List.mem_cons_self, h⟩
    | cons next rest =>
      rcases List.mem_append.mp h with h | h
      · exact Or.inr ⟨part, List.mem_cons_self, h⟩
      rcases List.mem_cons.mp h with h | h
      · exact Or.inl h
      rcases ih h with h | ⟨p, hp, h⟩
      · exact Or.inl h
      · exact Or.inr ⟨p, List.mem_cons_of_mem _ hp, h⟩

theorem literals_parted (mark : Text) (parts : List (List Token)) :
    (parted mark parts).filterMap Token.literal? =
      parts.flatMap (·.filterMap Token.literal?) := by
  induction parts with
  | nil => rfl
  | cons part rest ih =>
    cases rest with
    | nil => simp [parted]
    | cons next rest =>
      have : Token.literal? (.word mark) = none := rfl
      simp [parted, this, ih]

theorem blanked_parted (mark : Text) (parts : List (List Token)) :
    (parted mark parts).map Token.blanked = parted mark (parts.map (·.map Token.blanked)) := by
  induction parts with
  | nil => rfl
  | cons part rest ih =>
    cases rest with
    | nil => rfl
    | cons next rest =>
      have : Token.blanked (.word mark) = .word mark := rfl
      simp only [List.map_cons] at ih
      simp [parted, this, ih]

end WikiPivot.Sql
