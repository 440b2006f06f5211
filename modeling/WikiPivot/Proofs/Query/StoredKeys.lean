import WikiPivot.Pivot
import WikiPivot.Proofs.Directive.KeySources
import WikiPivot.Proofs.Query.Clauses
import WikiPivot.Proofs.Store.Rows
import WikiPivot.Proofs.Store.Verdicts

/-! # Keys that are stored alike

Keys are told apart as they are written, but a statement asks the store for what a literal can hold
of a key, and NUL characters are dropped from that. Keys that differ in NUL characters alone are
joined apart: their joins find the same attributes and choose one each. Without NUL characters every
stored key has one join.
-/
namespace WikiPivot

open Sql

def storedKey (key : Text) : Text := key.filter (· != '\x00')

theorem storedKey_of_not_mem {key : Text} (h : '\x00' ∉ key) : storedKey key = key := by
  rw [storedKey, List.filter_eq_self]
  intro c hc
  simpa using ne_of_mem_of_not_mem hc h

/-- No two of the keys are stored alike. -/
def StoredApart (keys : List Text) : Prop :=
  ∀ a ∈ keys, ∀ b ∈ keys, storedKey a = storedKey b → a = b

theorem storedApart_of_not_mem {keys : List Text} (h : ∀ key ∈ keys, '\x00' ∉ key) :
    StoredApart keys := by
  intro a ha b hb hsame
  rwa [storedKey_of_not_mem (h a ha), storedKey_of_not_mem (h b hb)] at hsame

namespace Store

variable (store : Store) (entity : Entity)

theorem matchesOf_congr {a b : Text} (h : storedKey a = storedKey b) :
    store.matchesOf entity.id a = store.matchesOf entity.id b := by
  have hsame : (Literal.ofText a).value = (Literal.ofText b).value := h
  rw [matchesOf, matchesOf, hsame]

/-- The joins of different keys choose independently of each other. -/
theorem exists_chosen_apart {query : Query} (h : query.joins.keys.Nodup) {a b : Text}
    (hab : a ≠ b) {x y : Match} (hx : x ∈ store.matchesOf entity.id a)
    (hy : y ∈ store.matchesOf entity.id b) :
    ∃ pick : Text → Match, pick a = x ∧ pick b = y ∧
      ⟨entity.name, query.joins.keys.map pick⟩ ∈ store.combinationsOf query entity := by
  have hsome := matchesOf_ne_nil store entity.id
  let first : Text → Match := fun key => (store.matchesOf entity.id key).head (hsome key)
  let pick := Function.update (Function.update first a x) b y
  have hpick : ∀ key, pick key ∈ store.matchesOf entity.id key := by
    intro key
    by_cases hb : key = b
    · subst key
      simpa [pick] using hy
    · by_cases ha : key = a
      · subst key
        simpa [pick, hab] using hx
      · have hfirst : pick key = first key := by simp [pick, hb, ha]
        rw [hfirst]
        exact List.head_mem (hsome key)
  refine ⟨pick, by simp [pick, hab], by simp [pick], ?_⟩
  exact List.mem_map_of_mem ((mem_choices_map hsome h).mpr ⟨pick, hpick, rfl⟩)

end Store

namespace Query

def joinedLiterals (store : StoreSettings) (query : Query) : List Text :=
  ((query.clauses store).filter (·.head? = some (word "LEFT JOIN "))).flatMap fun clause =>
    ((Sql.read (Sql.text clause)).map literals).getD []

theorem joinedLiterals_eq (store : StoreSettings) (query : Query) :
    query.joinedLiterals store = query.joins.keys.map storedKey := by
  have hread : ∀ clause ∈ query.joinClauses store,
      ((Sql.read (Sql.text clause)).map literals).getD [] = clause.filterMap Token.literal? := by
    intro clause hclause
    obtain ⟨⟨key, slot⟩, -, rfl⟩ := List.mem_map.mp hclause
    rw [read_text (readable_joinClause store key slot), Option.map_some, Option.getD_some,
      literals_pieces]
  rw [joinedLiterals, joinClauses_eq_filter, List.flatMap_congr hread, literals_joinClauses]
  rfl

/-- The statement joins a stored key twice exactly if it reads two keys that are stored alike. -/
theorem nodup_joinedLiterals_iff (store : StoreSettings) (sentinel : Text) {spec : TableSpec}
    (h : spec.columns ≠ []) (override : Option SortKey) :
    ((ofSpec sentinel spec override).joinedLiterals store).Nodup ↔
      StoredApart ((spec.mentions (effectiveSort spec override)).filter (· ≠ sentinel)) := by
  rw [joinedLiterals_eq, List.nodup_map_iff_inj_on (nodup_keys_ofSpec h sentinel override),
    keys_ofSpec h]
  simp only [StoredApart, mem_distinct]

theorem joinedLiterals_of_no_columns (store : StoreSettings) (sentinel : Text) {spec : TableSpec}
    (h : spec.columns = []) (override : Option SortKey) :
    (ofSpec sentinel spec override).joinedLiterals store = [] := by
  rw [joinedLiterals_eq, ofSpec_of_no_columns h]
  rfl

end Query

namespace Settings

/-- What a request reads has a NUL character only if a line or its sort parameter has one. -/
theorem nul_not_mem_of_mentioned (settings : Settings) (classes : Text) {lines : List Text}
    {parameter : Option Text} (h : ∀ text ∈ parameter.toList ++ lines, '\x00' ∉ text) {key : Text}
    (hkey : key ∈ (settings.read classes lines).spec.mentions
      (Query.effectiveSort (settings.read classes lines).spec
        (settings.requestedSort parameter))) :
    '\x00' ∉ key := by
  rcases TableSpec.mem_mentions_effectiveSort hkey with hown | ⟨sort, hsort, rfl⟩
  · obtain ⟨line, hline, hin⟩ := Directive.exists_line_of_mem_mentions hown
    exact hin.nul_not_mem (h line (List.mem_append_right _ hline))
  · obtain ⟨asked, hasked, hread⟩ := Option.bind_eq_some_iff.mp hsort
    have hmem : asked ∈ parameter.toList := by simp [hasked]
    exact (SortKey.keyIn_of_parse? hread).nul_not_mem (h asked (List.mem_append_left _ hmem))

theorem nodup_joinedLiterals_read (settings : Settings) (classes : Text) {lines : List Text}
    {parameter : Option Text} (h : ∀ text ∈ parameter.toList ++ lines, '\x00' ∉ text) :
    ((settings.query (settings.read classes lines).spec parameter).joinedLiterals
      settings.store).Nodup := by
  by_cases hcolumns : (settings.read classes lines).spec.columns = []
  · rw [query, Query.joinedLiterals_of_no_columns _ _ hcolumns]
    exact List.nodup_nil
  · rw [query, Query.nodup_joinedLiterals_iff _ _ hcolumns]
    apply storedApart_of_not_mem
    intro key hkey
    exact settings.nul_not_mem_of_mentioned classes h (List.mem_filter.mp hkey).1

end Settings

/-- A statement joins each stored key once exactly if no two keys that it reads differ in NUL
characters alone, as is so without NUL characters in the lines and in the sort parameter. The joins
of two keys that do find the same attributes, and each chooses one of its own. -/
theorem stored_keys_joined_once_iff (settings : Settings) :
    let sentinel := settings.directive.sentinel
    (∀ spec override,
      let query := Query.ofSpec sentinel spec override
      let keys := (spec.mentions (Query.effectiveSort spec override)).filter (· ≠ sentinel)
      let operand := Query.operand sentinel query.joins
      ((query.joinedLiterals settings.store).Nodup ↔ spec.columns = [] ∨ StoredApart keys) ∧
      (spec.columns ≠ [] →
        query.sql settings.store =
          [' '].intercalate ((query.clauses settings.store).map Sql.text) ∧
        ∀ a ∈ keys, ∀ b ∈ keys, a ≠ b → storedKey a = storedKey b →
          ∀ (store : Store) (entity : Entity),
            store.matchesOf entity.id a = store.matchesOf entity.id b ∧
            ∀ x ∈ store.matchesOf entity.id a, ∀ y ∈ store.matchesOf entity.id b,
              ∃ row ∈ store.combinationsOf query entity,
                row.value? (operand a) = x.value? ∧ row.value? (operand b) = y.value?)) ∧
    ∀ classes lines parameter, (∀ text ∈ parameter.toList ++ lines, '\x00' ∉ text) →
      ((settings.query (settings.read classes lines).spec parameter).joinedLiterals
        settings.store).Nodup := by
  intro sentinel
  refine ⟨?_, fun classes lines parameter => settings.nodup_joinedLiterals_read classes⟩
  intro spec override query keys operand
  constructor
  · by_cases hcolumns : spec.columns = []
    · rw [Query.joinedLiterals_of_no_columns _ _ hcolumns]
      exact iff_of_true List.nodup_nil (Or.inl hcolumns)
    · rw [Query.nodup_joinedLiterals_iff _ _ hcolumns, or_iff_right hcolumns]
  · intro hcolumns
    refine ⟨sql_eq_intercalate settings.store hcolumns sentinel override, ?_⟩
    intro a ha b hb hab hsame store entity
    refine ⟨store.matchesOf_congr entity hsame, ?_⟩
    intro x hx y hy
    obtain ⟨pick, hpicka, hpickb, hrow⟩ :=
      store.exists_chosen_apart entity (nodup_keys_ofSpec hcolumns sentinel override) hab hx hy
    have hread : ∀ key ∈ keys, Combination.value? ⟨entity.name, query.joins.keys.map pick⟩
        (operand key) = (pick key).value? := by
      intro key hkey
      obtain ⟨hmention, hother⟩ := List.mem_filter.mp hkey
      have hne : key ≠ sentinel := by simpa using hother
      rw [value?_operand (Or.inr (mem_keys_ofSpec hcolumns sentinel override hne hmention)),
        pickedValue, if_neg hne]
    exact ⟨_, hrow, by rw [hread a ha, hpicka], by rw [hread b hb, hpickb]⟩

def motleyStore : Store where
  entities := [⟨1, "Apple".toList⟩]
  attributes := [⟨1, "color".toList, some "red".toList⟩, ⟨1, "color".toList, some "green".toList⟩]

/-- The filter's key is the column's but for a NUL character. -/
def nulLines : List Text := ["cols: color".toList, "filter: color\x00 = red".toList]

/-- The column shows green on a row on which the filter finds red. Without the NUL character the
color is joined once. -/
theorem green_is_shown_where_red_is_asked_for :
    let settings : Settings := {}
    let query := settings.query (settings.read [] nulLines).spec none
    (¬ (query.joinedLiterals settings.store).Nodup ∧
      ∃ row ∈ motleyStore.combinationsOf query ⟨1, "Apple".toList⟩,
        row.value? (.joined 0) = some "green".toList ∧
          row.value? (.joined 1) = some "red".toList) ∧
      ((settings.query (settings.read [] (nulLines.map storedKey)).spec none).joinedLiterals
        settings.store).Nodup := by
  intro settings query
  obtain ⟨hjoined, hread⟩ := stored_keys_joined_once_iff settings
  let spec := (settings.read [] nulLines).spec
  obtain ⟨honce, hapart⟩ := hjoined spec none
  obtain ⟨hcolumns, hkeys, hfirst, hsecond⟩ : spec.columns ≠ [] ∧
      (spec.mentions (Query.effectiveSort spec none)).filter (· ≠ settings.directive.sentinel) =
        ["color".toList, "color\x00".toList] ∧
      Query.operand settings.directive.sentinel query.joins "color".toList = .joined 0 ∧
      Query.operand settings.directive.sentinel query.joins "color\x00".toList = .joined 1 := by
    decide +kernel
  have hne : "color".toList ≠ "color\x00".toList := by decide
  have hsame : storedKey "color".toList = storedKey "color\x00".toList := by decide
  rw [hkeys] at honce hapart
  refine ⟨⟨?_, ?_⟩, hread [] _ none (by decide +kernel)⟩
  · intro hnodup
    exact hne ((honce.mp hnodup).resolve_left hcolumns _ (by simp) _ (by simp) hsame)
  · obtain ⟨-, hchosen⟩ := hapart hcolumns
    obtain ⟨-, hrows⟩ := hchosen _ (by simp) _ (by simp) hne hsame motleyStore ⟨1, "Apple".toList⟩
    obtain ⟨row, hrow, hshown, hcompared⟩ :=
      hrows (.matched (some "green".toList)) (by decide) (.matched (some "red".toList)) (by decide)
    exact ⟨row, hrow, hfirst ▸ hshown, hsecond ▸ hcompared⟩

/-- The settings pass the check, the color is joined twice, and a filter that asks for red leaves
green in the answer. -/
theorem color_is_joined_twice :
    let settings : Settings := {}
    let query := settings.query (settings.read [] nulLines).spec none
    settings.check = .ok settings ∧
      query.joinedLiterals settings.store = ["color".toList, "color".toList] ∧
      ¬ (query.joinedLiterals settings.store).Nodup ∧
      motleyStore.answer settings.store.separator query = [["red, green".toList]] := by
  decide +kernel

end WikiPivot
