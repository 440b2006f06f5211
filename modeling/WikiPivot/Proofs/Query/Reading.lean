import WikiPivot.Query.Printer
import WikiPivot.Proofs.Sql.Reading

/-! # The statement of a query read back

Every clause can be read by its quotes. The literals of a statement are the separators, the joined
keys and the compared values, its names are names of the settings, and nothing else of it depends on
any of these texts.
-/
namespace WikiPivot

open Sql

variable (store : StoreSettings)

theorem readable_operand (operand : Operand) : Readable (operand.tokens store) := by
  cases operand <;>
    simp [Operand.tokens, Operand.column, ColumnUse.tokens, StoreSettings.entityNameColumn, word,
      Token.text, Quote.ofChar?]

theorem readable_selected (operand : Operand) : Readable (operand.selected store) := by
  cases operand with
  | entityName => exact readable_operand store .entityName
  | joined slot =>
    simp [Operand.selected, Operand.tokens, Operand.column, ColumnUse.tokens, word, Token.text,
      Joins.aliasAt, Quote.ofChar?]

theorem readable_keyword_comparator (comparator : Comparator) : Unquoted comparator.keyword := by
  cases comparator <;> simp [Comparator.keyword, Quote.ofChar?]

theorem readable_term (term : Term) : Readable (term.tokens store) := by
  cases term with
  | anchor =>
    simp [Term.tokens, ColumnUse.tokens, StoreSettings.entityIdColumn,
      StoreSettings.joinEntityColumn, word, Token.text, Quote.ofChar?]
  | comparison operand comparator literal =>
    refine readable_append (readable_operand store operand) ?_ ?_
    · simp [word, readable_keyword_comparator, Quote.ofChar?]
    · simp [word, Token.text, Quote.ofChar?]

namespace Query

theorem readable_selectClause (query : Query) : Readable (query.selectClause store) := by
  simp only [selectClause, word, readable_word]
  refine ⟨by simp [Quote.ofChar?], readable_parted (by simp [Quote.ofChar?]) (by simp) ?_⟩
  intro part hpart
  obtain ⟨operand, _, rfl⟩ := List.mem_map.mp hpart
  exact readable_selected store operand

theorem readable_joinClause (key : Text) (slot : Nat) : Readable (joinClause store key slot) := by
  simp [joinClause, ColumnUse.tokens, StoreSettings.joinEntityColumn, StoreSettings.entityIdColumn,
    StoreSettings.joinKeyColumn, word, Token.text, Quote.ofChar?]

theorem readable_termClauses (query : Query) :
    ∀ clause ∈ query.termClauses store, Readable clause := by
  intro clause hclause
  unfold termClauses at hclause
  split at hclause
  · cases hclause
  · rcases List.mem_cons.mp hclause with rfl | h
    · simp [word, readable_term, Quote.ofChar?]
    · obtain ⟨⟨logic, term⟩, _, rfl⟩ := List.mem_map.mp h
      cases logic <;> simp [word, readable_term, Logic.keyword, Quote.ofChar?]

theorem readable_orderClause (query : Query) : Readable (query.orderClause store) := by
  unfold orderClause
  split
  · simp [word, Quote.ofChar?]
  · rename_i operand direction _
    simp only [word, readable_word, List.cons_append]
    refine ⟨by simp [Quote.ofChar?], readable_append (readable_operand store operand) ?_ ?_⟩
    · cases direction <;> simp [Direction.keyword, Quote.ofChar?]
    · simp [Token.text, Quote.ofChar?]

theorem readable_clauses (query : Query) : ∀ clause ∈ query.clauses store, Readable clause := by
  intro clause hclause
  simp only [clauses, List.cons_append, List.mem_cons, List.mem_append, List.not_mem_nil,
    or_false, joinClauses, List.mem_map] at hclause
  rcases hclause with rfl | rfl | (⟨⟨key, slot⟩, _, rfl⟩ | h) | rfl | rfl
  · exact readable_selectClause store query
  · simp [fromClause, word, Quote.ofChar?]
  · exact readable_joinClause store key slot
  · exact readable_termClauses store query clause h
  · simp [groupClause, ColumnUse.tokens, StoreSettings.entityNameColumn, word, Token.text,
      Quote.ofChar?]
  · exact readable_orderClause store query

theorem read_sql (query : Query) :
    read (query.sql store) = some ((query.statement store).flatMap Token.pieces) := by
  refine read_text ?_
  unfold statement
  split
  · simp [word, Quote.ofChar?]
  · exact readable_parted (by simp [Quote.ofChar?]) (by simp) (readable_clauses store query)

end Query

def Term.literal? : Term → Option Text
  | anchor => none
  | comparison _ _ literal => some literal.value

def Operand.isJoined : Operand → Bool
  | entityName => false
  | joined _ => true

theorem literals_operand (operand : Operand) :
    (operand.tokens store).filterMap Token.literal? = [] := by
  cases operand <;> rfl

theorem literals_selected (operand : Operand) :
    (operand.selected store).filterMap Token.literal? =
      if operand.isJoined then [(Literal.ofText store.separator).value] else [] := by
  cases operand <;> rfl

theorem literals_term (term : Term) :
    (term.tokens store).filterMap Token.literal? = term.literal?.toList := by
  cases term with
  | anchor => rfl
  | comparison operand comparator literal =>
    rw [Term.tokens, List.filterMap_append, literals_operand]
    rfl

namespace Query

theorem literals_selectClause (query : Query) :
    (query.selectClause store).filterMap Token.literal? =
      (query.columns.filter Operand.isJoined).map fun _ =>
        (Literal.ofText store.separator).value := by
  rw [selectClause, List.filterMap_cons_none rfl, literals_parted]
  induction query.columns with
  | nil => rfl
  | cons operand rest ih =>
    cases h : operand.isJoined <;> simp [literals_selected, h, ih]

theorem literals_joinClauses (query : Query) :
    (query.joinClauses store).flatMap (·.filterMap Token.literal?) =
      query.joins.keys.map fun key => (Literal.ofText key).value := by
  have each : ∀ entry : Text × Nat,
      (joinClause store entry.1 entry.2).filterMap Token.literal? =
        [(Literal.ofText entry.1).value] := fun _ => rfl
  rw [joinClauses, List.flatMap_map]
  simp only [each]
  rw [← List.map_eq_flatMap]
  conv_rhs => rw [← List.zipIdx_map_fst 0 query.joins.keys, List.map_map]
  rfl

theorem literals_termClauses (query : Query) :
    (query.termClauses store).flatMap (·.filterMap Token.literal?) =
      (query.terms.map Prod.snd).filterMap Term.literal? := by
  unfold termClauses
  cases query.terms with
  | nil => rfl
  | cons first rest =>
    have hfirst : (word "WHERE " :: first.2.tokens store).filterMap Token.literal? =
        first.2.literal?.toList := by
      rw [List.filterMap_cons_none rfl, literals_term]
    have hrest : ∀ entry : Logic × Term,
        (.word entry.1.keyword :: word " " :: entry.2.tokens store).filterMap Token.literal? =
          entry.2.literal?.toList := by
      intro entry
      rw [List.filterMap_cons_none rfl, List.filterMap_cons_none rfl, literals_term]
    simp only [List.flatMap_cons, List.flatMap_map, List.map_cons, hfirst, hrest]
    rw [List.filterMap_eq_flatMap_toList, List.flatMap_cons, List.flatMap_map]

theorem literals_orderClause (query : Query) :
    (query.orderClause store).filterMap Token.literal? = [] := by
  unfold orderClause
  split
  · rfl
  · rw [List.cons_append, List.filterMap_cons_none rfl, List.filterMap_append, literals_operand]
    rfl

theorem literals_statement {query : Query} (h : query.yieldsNothing = false) :
    (query.statement store).filterMap Token.literal? =
      ((query.columns.filter Operand.isJoined).map fun _ =>
        (Literal.ofText store.separator).value) ++
      (query.joins.keys.map fun key => (Literal.ofText key).value) ++
      (query.terms.map Prod.snd).filterMap Term.literal? := by
  have hfrom : (fromClause store).filterMap Token.literal? = [] := rfl
  have hgroup : (groupClause store).filterMap Token.literal? = [] := rfl
  rw [statement, h, if_neg (by decide), literals_parted]
  simp only [clauses, List.cons_append, List.flatMap_cons, List.flatMap_append, List.flatMap_nil,
    literals_selectClause, literals_joinClauses, literals_termClauses, literals_orderClause, hfrom,
    hgroup, List.nil_append, List.append_nil, List.append_assoc]

end Query

/-- A token that names nothing but what the settings name. -/
def Configured (token : Token) : Prop :=
  ∀ t ∈ token.name?, ∃ name : StoreName, t = store.get name

theorem configured_unnamed {token : Token} (h : token.name? = none) : Configured store token := by
  simp [Configured, h]

theorem configured_name (name : StoreName) : Configured store (.name (store.get name)) := by
  rintro _ ⟨⟩
  exact ⟨name, rfl⟩

theorem configured_use {table : Token} (h : Configured store table) (name : StoreName) :
    ∀ token ∈ (⟨table, store.get name⟩ : ColumnUse).tokens, Configured store token := by
  simp only [ColumnUse.tokens, List.forall_mem_cons]
  exact ⟨h, configured_unnamed store rfl, configured_name store name, List.forall_mem_nil _⟩

theorem configured_entityColumn (name : StoreName) :
    ∀ token ∈ (⟨.name store.entityTable, store.get name⟩ : ColumnUse).tokens,
      Configured store token :=
  configured_use store (configured_name store .entityTable) name

theorem configured_joinColumn (slot : Nat) (name : StoreName) :
    ∀ token ∈ (⟨.joined slot, store.get name⟩ : ColumnUse).tokens, Configured store token :=
  configured_use store (configured_unnamed store rfl) name

theorem configured_operand (operand : Operand) :
    ∀ token ∈ operand.tokens store, Configured store token := by
  cases operand with
  | entityName => exact configured_entityColumn store .entityName
  | joined slot => exact configured_joinColumn store slot .attributeValue

theorem configured_selected (operand : Operand) :
    ∀ token ∈ operand.selected store, Configured store token := by
  cases operand with
  | entityName => exact configured_operand store .entityName
  | joined slot =>
    intro token h
    simp only [Operand.selected, List.cons_append, List.nil_append, List.mem_cons, List.mem_append,
      List.not_mem_nil, or_false] at h
    rcases h with rfl | rfl | h | rfl | rfl | rfl
    · exact configured_name store .aggregate
    · exact configured_unnamed store rfl
    · exact configured_operand store _ token h
    all_goals exact configured_unnamed store rfl

theorem configured_term (term : Term) : ∀ token ∈ term.tokens store, Configured store token := by
  intro token h
  cases term with
  | anchor =>
    simp only [Term.tokens, List.mem_append, List.mem_cons] at h
    rcases h with h | rfl | h
    · exact configured_entityColumn store .entityId token h
    · exact configured_unnamed store rfl
    · exact configured_joinColumn store 0 .attributeEntity token h
  | comparison operand comparator literal =>
    simp only [Term.tokens, List.mem_append, List.mem_cons, List.not_mem_nil, or_false] at h
    rcases h with h | rfl | rfl | rfl | rfl
    · exact configured_operand store operand token h
    all_goals exact configured_unnamed store rfl

namespace Query

theorem configured_joinClause (key : Text) (slot : Nat) :
    ∀ token ∈ joinClause store key slot, Configured store token := by
  intro token h
  simp only [joinClause, List.cons_append, List.nil_append, List.append_assoc, List.mem_cons,
    List.mem_append, List.not_mem_nil, or_false] at h
  rcases h with rfl | rfl | rfl | rfl | rfl | h | rfl | h | rfl | h | rfl | rfl
  · exact configured_unnamed store rfl
  · exact configured_name store .attributeTable
  · exact configured_unnamed store rfl
  · exact configured_unnamed store rfl
  · exact configured_unnamed store rfl
  · exact configured_joinColumn store slot .attributeEntity token h
  · exact configured_unnamed store rfl
  · exact configured_entityColumn store .entityId token h
  · exact configured_unnamed store rfl
  · exact configured_joinColumn store slot .attributeKey token h
  all_goals exact configured_unnamed store rfl

theorem configured_clauses (query : Query) :
    ∀ clause ∈ query.clauses store, ∀ token ∈ clause, Configured store token := by
  intro clause hclause token h
  simp only [clauses, List.cons_append, List.mem_cons, List.mem_append, List.not_mem_nil,
    or_false, joinClauses, List.mem_map] at hclause
  rcases hclause with rfl | rfl | (⟨⟨key, slot⟩, _, rfl⟩ | hterm) | rfl | rfl
  · rcases List.mem_cons.mp h with rfl | h
    · exact configured_unnamed store rfl
    rcases mem_parted h with rfl | ⟨part, hpart, h⟩
    · exact configured_unnamed store rfl
    obtain ⟨operand, _, rfl⟩ := List.mem_map.mp hpart
    exact configured_selected store operand token h
  · simp only [fromClause, List.mem_cons, List.not_mem_nil, or_false] at h
    rcases h with rfl | rfl
    · exact configured_unnamed store rfl
    · exact configured_name store .entityTable
  · exact configured_joinClause store key slot token h
  · unfold termClauses at hterm
    split at hterm
    · cases hterm
    · rcases List.mem_cons.mp hterm with rfl | hrest
      · rcases List.mem_cons.mp h with rfl | h
        · exact configured_unnamed store rfl
        · exact configured_term store _ token h
      · obtain ⟨⟨logic, term⟩, _, rfl⟩ := List.mem_map.mp hrest
        simp only [List.mem_cons] at h
        rcases h with rfl | rfl | h
        · exact configured_unnamed store rfl
        · exact configured_unnamed store rfl
        · exact configured_term store term token h
  · rcases List.mem_cons.mp h with rfl | h
    · exact configured_unnamed store rfl
    · exact configured_entityColumn store .entityName token h
  · unfold orderClause at h
    split at h
    · rw [List.mem_singleton.mp h]
      exact configured_unnamed store rfl
    · simp only [List.cons_append, List.mem_cons, List.mem_append, List.not_mem_nil,
        or_false] at h
      rcases h with rfl | h | rfl | rfl
      · exact configured_unnamed store rfl
      · exact configured_operand store _ token h
      all_goals exact configured_unnamed store rfl

theorem configured_statement (query : Query) :
    ∀ token ∈ query.statement store, Configured store token := by
  intro token h
  unfold statement at h
  split at h
  · rw [List.mem_singleton.mp h]
    exact configured_unnamed store rfl
  · rcases mem_parted h with rfl | ⟨clause, hclause, h⟩
    · exact configured_unnamed store rfl
    · exact configured_clauses store query clause hclause token h

end Query

end WikiPivot
