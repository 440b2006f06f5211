import WikiPivot.Store.Database

/-! # The columns that a statement uses

A use of a column is a table, a point and a name. Words other than the point part the uses of a
statement, so that each clause uses what its operands and conditions use, wherever it stands.
-/
namespace WikiPivot

open Sql

def columnsUsed (tokens : List Token) : List ColumnUse := (columnUses 0 tokens).map Prod.snd

def useAt? : Token → List Token → Option ColumnUse
  | .name table, .word ['.'] :: .name column :: _ => some ⟨.name table, column⟩
  | .joined slot, .word ['.'] :: .name column :: _ => some ⟨.joined slot, column⟩
  | _, _ => none

theorem columnUses_cons_map_snd (offset : Nat) (token : Token) (rest : List Token) :
    (columnUses offset (token :: rest)).map Prod.snd =
      (useAt? token rest).toList ++
        (columnUses (offset + Text.octets token.text) rest).map Prod.snd := by
  rw [columnUses.eq_def]
  simp only
  split
  · rfl
  · rfl
  · rename_i hname hjoined
    have hnone : useAt? token rest = none := by
      unfold useAt?
      split <;> simp_all
    rw [hnone]
    rfl

/-- Where the tokens stand does not matter to what they use. -/
theorem columnUses_map_snd (offset : Nat) (tokens : List Token) :
    (columnUses offset tokens).map Prod.snd = columnsUsed tokens := by
  have step : ∀ (tokens : List Token) (m n : Nat),
      (columnUses m tokens).map Prod.snd = (columnUses n tokens).map Prod.snd := by
    intro tokens
    induction tokens with
    | nil => intro m n; rfl
    | cons token rest ih =>
      intro m n
      rw [columnUses_cons_map_snd, columnUses_cons_map_snd, ih]
  exact step tokens offset 0

theorem columnsUsed_cons (token : Token) (rest : List Token) :
    columnsUsed (token :: rest) = (useAt? token rest).toList ++ columnsUsed rest := by
  rw [columnsUsed, columnUses_cons_map_snd, columnUses_map_snd]

@[simp] theorem columnsUsed_word (t : Text) (rest : List Token) :
    columnsUsed (.word t :: rest) = columnsUsed rest := columnsUsed_cons _ rest

theorem useAt?_append_word {w : Text} (hw : w ≠ ['.']) (token : Token) (a b : List Token) :
    useAt? token (a ++ .word w :: b) = useAt? token a := by
  rcases a with _ | ⟨first, _ | ⟨second, rest⟩⟩
  · cases token <;> cases b <;> simp [useAt?, hw]
  · cases token <;> cases first <;> simp [useAt?]
  · cases first with
    | word t =>
      by_cases ht : t = ['.']
      · subst ht
        cases token <;> cases second <;> rfl
      · cases token <;> simp [useAt?, ht]
    | name _ | joined _ | value _ => cases token <;> simp [useAt?]

/-- A word that is no point parts the uses before it from those behind it. -/
theorem columnsUsed_append_word {w : Text} (hw : w ≠ ['.']) (a b : List Token) :
    columnsUsed (a ++ .word w :: b) = columnsUsed a ++ columnsUsed b := by
  induction a with
  | nil => exact columnsUsed_word w b
  | cons token rest ih =>
    rw [List.cons_append, columnsUsed_cons, columnsUsed_cons, useAt?_append_word hw, ih,
      List.append_assoc]

theorem columnsUsed_parted (mark : Text) (hmark : mark ≠ ['.']) (parts : List (List Token)) :
    columnsUsed (parted mark parts) = parts.flatMap columnsUsed := by
  induction parts with
  | nil => rfl
  | cons part rest ih =>
    cases rest with
    | nil => simp [parted]
    | cons next rest =>
      have hparts : parted mark (part :: next :: rest) =
          part ++ .word mark :: parted mark (next :: rest) := rfl
      rw [hparts, columnsUsed_append_word hmark, ih]
      rfl

/-- The clauses use what each of them uses, whatever places are reported. -/
theorem map_snd_columnUses_parted {f : Nat × ColumnUse → Option Nat × ColumnUse}
    (hf : ∀ entry, (f entry).2 = entry.2) (offset : Nat) (clauses : List (List Token)) :
    ((columnUses offset (parted [' '] clauses)).map f).map Prod.snd =
      clauses.flatMap columnsUsed := by
  have hsnd : Prod.snd ∘ f = Prod.snd := funext hf
  rw [List.map_map, hsnd, columnUses_map_snd, columnsUsed_parted [' '] (by simp)]

variable (names : StoreSettings)

theorem columnsUsed_operand (operand : Operand) :
    columnsUsed (operand.tokens names) = [operand.column names] := by
  cases operand <;> rfl

theorem columnsUsed_selected (operand : Operand) :
    columnsUsed (operand.selected names) = [operand.column names] := by
  cases operand <;> rfl

def Term.columns : Term → List ColumnUse
  | anchor => [names.entityIdColumn, names.joinEntityColumn 0]
  | comparison operand _ _ => [operand.column names]

theorem columnsUsed_term (term : Term) :
    columnsUsed (term.tokens names) = term.columns names := by
  cases term with
  | anchor => rfl
  | comparison operand comparator literal => cases operand <;> rfl

namespace Query

theorem columnsUsed_selectClause (query : Query) :
    columnsUsed (query.selectClause names) = query.columns.map (·.column names) := by
  rw [selectClause, word, columnsUsed_word, columnsUsed_parted _ (by simp), List.flatMap_map]
  simp only [columnsUsed_selected]
  rw [← List.map_eq_flatMap]

theorem columnsUsed_joinClause (key : Text) (slot : Nat) :
    columnsUsed (joinClause names key slot) =
      [names.joinEntityColumn slot, names.entityIdColumn, names.joinKeyColumn slot] := rfl

theorem columnsUsed_termClauses (query : Query) :
    (query.termClauses names).flatMap columnsUsed =
      (query.terms.map Prod.snd).flatMap (Term.columns names) := by
  unfold termClauses
  cases query.terms with
  | nil => rfl
  | cons first rest =>
    simp [word, columnsUsed_term, List.flatMap_map]

theorem columnsUsed_groupClause :
    columnsUsed (groupClause names) = [names.entityNameColumn] := rfl

theorem columnsUsed_orderClause (query : Query) :
    columnsUsed (query.orderClause names) =
      query.order.toList.map fun entry => entry.1.column names := by
  unfold orderClause
  split
  · rename_i h
    rw [h]
    rfl
  · rename_i operand direction h
    rw [h, List.cons_append, word, columnsUsed_word, word]
    rw [columnsUsed_append_word (by simp), columnsUsed_operand]
    rfl

end Query

end WikiPivot
