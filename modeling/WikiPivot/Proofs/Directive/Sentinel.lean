import WikiPivot.Pivot
import WikiPivot.Proofs.Directive.Kinds
import WikiPivot.Proofs.Directive.Clauses
import WikiPivot.Proofs.Query.Clauses
import WikiPivot.Proofs.Settings

/-! # The key of the page itself

A directive shows the page, sorts by it and compares it under the key that the settings give it. The
check keeps out of that key what takes a line or a list apart. A descending marker in front and the
signs of comparators pass the check, and with them the key is one of a column alone: a sort takes
the marker off it, and a filter is cut inside it.
-/
namespace WikiPivot

open Text Directive Sql

/-- Every spelling of a comparator has one of these signs in it, and each of them is a spelling. -/
def Comparator.signs : List Char := ['<', '=', '>', '~']

theorem Comparator.exists_sign_iff {t : Text} :
    (∃ c ∈ t, c ∈ signs) ↔ t.any (signs.contains ·) = true := by
  simp only [List.any_eq_true, List.contains_iff_mem]

theorem Comparator.spellingAt?_sign {c : Char} (h : c ∈ signs) (rest : Text) :
    spellingAt? (c :: rest) ≠ none := by
  intro hnone
  have hspelt : signs.all (fun sign => (spellings.map Prod.fst).contains [sign]) = true := by
    decide
  have hmem : [c] ∈ spellings.map Prod.fst :=
    List.contains_iff_mem.mp (List.all_eq_true.mp hspelt c h)
  have hshorter := List.find?_eq_none.mp hnone [c] hmem
  simp at hshorter

theorem Comparator.not_infix_of_unsigned {key : Text} (h : ∀ c ∈ key, c ∉ signs) :
    ∀ entry ∈ spellings, ¬ entry.1 <:+: key := by
  have hsigned : ∀ entry ∈ spellings, entry.1.any (signs.contains ·) = true := by decide
  intro entry hentry hinside
  obtain ⟨c, hc, hsign⟩ := exists_sign_iff.mpr (hsigned entry hentry)
  exact h c (hinside.mem hc) hsign

/-- A key with a sign in it is cut there or before. -/
theorem split?_of_signed {key : Text} (h : ∃ c ∈ key, c ∈ Comparator.signs) (rest : Text) :
    ∃ cut, Comparison.split? (key ++ rest) = some cut ∧ cut.left <+: key ∧ cut.left ≠ key := by
  induction key with
  | nil =>
    obtain ⟨c, hc, -⟩ := h
    exact absurd hc List.not_mem_nil
  | cons c key ih =>
    rw [List.cons_append, Comparison.split?]
    cases hspelling : Comparator.spellingAt? (c :: (key ++ rest)) with
    | some token => exact ⟨_, rfl, List.nil_prefix, (List.cons_ne_nil c key).symm⟩
    | none =>
      -- no spelling stands here, so the sign is a later character
      have hlater : ∃ d ∈ key, d ∈ Comparator.signs := by
        obtain ⟨d, hd, hsign⟩ := h
        rcases List.mem_cons.mp hd with rfl | hd
        · exact absurd hspelling (Comparator.spellingAt?_sign hsign _)
        · exact ⟨d, hd, hsign⟩
      obtain ⟨cut, hcut, hfront, hne⟩ := ih hlater
      refine ⟨{ cut with left := c :: cut.left }, ?_, ?_, ?_⟩
      · rw [hcut]
        rfl
      · exact List.cons_prefix_cons.mpr ⟨rfl, hfront⟩
      · exact fun hsame => hne (List.cons.inj hsame).2

theorem IsKey.of_front {key left : Text} (h : IsKey key) (hfront : left <+: key)
    (hne : left ≠ []) : IsKey left where
  nonempty := hne
  unblank := fun c hc => h.unblank c (hfront.mem hc)
  lowercase := lowercase_eq_self_iff.mpr fun c hc =>
    lowercase_eq_self_iff.mp h.lowercase c (hfront.mem hc)

/-- A condition on a key with a sign in it is not read as one on that key. -/
theorem filter?_ofFilter_of_signed {key : Text} (hkey : IsKey key)
    (h : ∃ c ∈ key, c ∈ Comparator.signs) (sentinel rest : Text) (logic : Logic) :
    ∀ condition ∈ (Clause.ofFilter sentinel logic (key ++ rest)).filter?, condition.key ≠ key := by
  obtain ⟨cut, hcut, hfront, hne⟩ := split?_of_signed h rest
  intro condition hcondition
  rw [Clause.ofFilter, hcut] at hcondition
  simp only at hcondition
  split at hcondition
  · exact absurd hcondition (by simp [Clause.filter?])
  · split at hcondition
    · exact absurd hcondition (by simp [Clause.filter?])
    · rename_i hshown
      obtain rfl := Option.some.inj hcondition
      by_cases hnil : cut.left = []
      · rw [hnil] at hshown
        exact absurd rfl hshown
      · have hmention := ColumnMention.ofToken_key (hkey.of_front hfront hnil) sentinel
        rw [hmention]
        exact hne

theorem escaped_of_not_mem {t : Text} (hhash : '#' ∉ t) (hcolon : ':' ∉ t) : escaped t = t := by
  rw [escaped_eq, guarded_of_not_mem hcolon, guarded_of_not_mem hhash]

/-- A key that passes the check is a key, and neither a list nor a line is cut inside it. -/
theorem isSentinel_sound {key : Text} (h : isSentinel key = true) :
    IsKey key ∧ ',' ∉ key ∧ ':' ∉ key ∧ '#' ∉ key := by
  simp only [isSentinel, Bool.and_eq_true, Bool.not_eq_true', List.isEmpty_eq_false_iff, beq_iff_eq,
    List.all_eq_true, bne_iff_ne] at h
  obtain ⟨⟨hne, hlowercase⟩, hall⟩ := h
  refine ⟨⟨hne, fun c hc => (hall c hc).1.1.1, hlowercase⟩, ?_, ?_, ?_⟩
  · exact fun hc => (hall _ hc).1.1.2 rfl
  · exact fun hc => (hall _ hc).1.2 rfl
  · exact fun hc => (hall _ hc).2 rfl

theorem DirectiveSettings.Accepted.isKey {settings : DirectiveSettings}
    (accepted : settings.Accepted) : IsKey settings.sentinel :=
  (isSentinel_sound accepted.sentinel).1

def sentinelLines (sentinel value : Text) : List Text :=
  ["cols: ".toList ++ sentinel, "sort: ".toList ++ sentinel,
    "filter: ".toList ++ sentinel ++ " = ".toList ++ escaped value]

def sentinelSpec (settings : DirectiveSettings) (classes value : Text) : TableSpec :=
  { classes := trim classes
    columns := [⟨settings.sentinel, .page⟩]
    headers := [settings.pageNameLabel]
    sort := some ⟨settings.sentinel, .ascending⟩
    filters := [⟨settings.sentinel, .equal, Literal.ofText value, .and⟩] }

def sentinelQuery (settings : DirectiveSettings) (value : Text) : Query :=
  { columns := [.entityName]
    joins := .empty
    terms := [(.and, .comparison .entityName .equal (Literal.ofText value))]
    sort := some ⟨settings.sentinel, .ascending⟩
    order := some (.entityName, .ascending) }

def sentinelStatement (store : StoreSettings) (value : Text) : Text :=
  [' '].intercalate
    ["SELECT ".toList ++ store.entityNameText,
      "FROM ".toList ++ Sql.identifier store.entityTable,
      "WHERE ".toList ++ store.entityNameText ++ " = ".toList ++ (Literal.ofText value).quoted,
      "GROUP BY ".toList ++ store.entityNameText,
      "ORDER BY ".toList ++ store.entityNameText ++ " ASC".toList]

theorem ofSpec_sentinelSpec {settings : DirectiveSettings} (hne : settings.sentinel ≠ [])
    (classes value : Text) :
    Query.ofSpec settings.sentinel (sentinelSpec settings classes value) none =
      sentinelQuery settings value := by
  have hshown : settings.sentinel.isEmpty = false := by simpa using hne
  have hsort : Query.effectiveSort (sentinelSpec settings classes value) none =
      some ⟨settings.sentinel, .ascending⟩ := by
    simp [Query.effectiveSort, sentinelSpec, Option.filter_some, hshown]
  have hcolumns : (sentinelSpec settings classes value).columns ≠ [] := List.cons_ne_nil _ _
  have hkeys : ((sentinelSpec settings classes value).mentions
      (some ⟨settings.sentinel, .ascending⟩)).filter (· ≠ settings.sentinel) = [] := by
    simp [TableSpec.mentions, sentinelSpec]
  rw [ofSpec_eq hcolumns, hsort]
  simp only [hkeys]
  simp [sentinelSpec, sentinelQuery, Query.operand, Joins.ofKeys, Joins.empty, distinct]

theorem sql_sentinelQuery (settings : DirectiveSettings) (store : StoreSettings) (value : Text) :
    (sentinelQuery settings value).sql store = sentinelStatement store value := by
  have hyields : ¬ (sentinelQuery settings value).yieldsNothing = true := Bool.false_ne_true
  have hclauses : (sentinelQuery settings value).clauses store =
      [word "SELECT " :: Operand.entityName.tokens store, Query.fromClause store,
        word "WHERE " :: (Term.comparison .entityName .equal (Literal.ofText value)).tokens store,
        Query.groupClause store,
        word "ORDER BY " :: Operand.entityName.tokens store ++
          [word " ", .word Direction.ascending.keyword]] := rfl
  have hname : Sql.text store.entityNameColumn.tokens = store.entityNameText := text_column _
  rw [Query.sql, Query.statement, if_neg hyields, text_parted, hclauses,
    sentinelStatement]
  simp only [List.map_cons, List.map_nil, Query.fromClause, Query.groupClause, Term.tokens,
    Operand.tokens, Operand.column, text_append, text_cons, text_nil, hname, List.append_nil,
    List.append_assoc]
  rfl

/-- A table of one column, one sort line and one condition that is well formed or not. -/
theorem specOf_shown_sorted_compared (settings : DirectiveSettings) (classes : Text)
    (column : Column) (sort : Option SortKey) {clause : Clause}
    (h : clause.kind? = some .filter) :
    specOf settings classes [.select [column], .sort sort, clause] =
      { classes := trim classes
        columns := [column]
        headers :=
          TableSpec.defaultHeaders settings.sentinel settings.pageNameLabel [column.key]
        sort
        filters := clause.filter?.toList } := by
  cases clause with
  | filter condition => cases sort <;> rfl
  | malformed argument problem => cases sort <;> rfl
  | _ => exact absurd h (by simp [Clause.kind?])

section

variable {settings : DirectiveSettings} (accepted : settings.Accepted)

include accepted

/-- The key needs no escapes in its three lines. -/
theorem sentinelLines_eq (value : Text) :
    sentinelLines settings.sentinel value =
      [instructionLine "cols".toList settings.sentinel,
        instructionLine "sort".toList settings.sentinel,
        instructionLine "filter".toList
          (settings.sentinel ++ ' ' :: ("=".toList ++ ' ' :: value))] := by
  obtain ⟨-, -, hcolon, hhash⟩ := isSentinel_sound accepted.sentinel
  have hkey : escaped settings.sentinel = settings.sentinel := escaped_of_not_mem hhash hcolon
  have hargument : escaped (settings.sentinel ++ ' ' :: ("=".toList ++ ' ' :: value)) =
      settings.sentinel ++ " = ".toList ++ escaped value := by
    have hmarks : escaped " = ".toList = " = ".toList := by decide
    have hassoc : settings.sentinel ++ ' ' :: ("=".toList ++ ' ' :: value) =
        settings.sentinel ++ (" = ".toList ++ value) := rfl
    rw [hassoc, escaped, List.flatMap_append, List.flatMap_append, ← escaped, ← escaped, ← escaped,
      hkey, hmarks, List.append_assoc]
  rw [sentinelLines, instructionLine, instructionLine, instructionLine, hkey, hargument]
  simp

/-- What the three lines say. -/
theorem filterMap_ofLine?_sentinelLines (value : Text) :
    (sentinelLines settings.sentinel value).filterMap (Clause.ofLine? settings) =
      [.select [⟨settings.sentinel, .page⟩],
        .sort (SortKey.parse? settings.sentinel settings.descendingMarker settings.sentinel),
        .ofFilter settings.sentinel .and
          (trim (settings.sentinel ++ ' ' :: ("=".toList ++ ' ' :: value)))] := by
  obtain ⟨hkey, hcomma, -, -⟩ := isSentinel_sound accepted.sentinel
  have hcolumn : (ColumnMention.ofToken settings.sentinel settings.sentinel).column? =
      some ⟨settings.sentinel, .page⟩ := by
    rw [ColumnMention.ofToken_key hkey, ColumnMention.column?,
      if_neg (by simpa using hkey.nonempty)]
    simp [ColumnMention.type]
  have hcolumns : (Text.pieces ',' (trim settings.sentinel)).filterMap
      (fun token => (ColumnMention.ofToken settings.sentinel token).column?) =
        [⟨settings.sentinel, .page⟩] := by
    rw [trim_of_trimmed hkey.trimmed, pieces_of_not_mem hcomma]
    simp only [List.filterMap_cons, List.filterMap_nil, hcolumn]
  have hcols : ("cols".toList, Instruction.select) ∈ Instruction.aliases := by decide
  have hsort : ("sort".toList, Instruction.sort) ∈ Instruction.aliases := by decide
  have hfilter : ("filter".toList, Instruction.filter .and) ∈ Instruction.aliases := by decide
  rw [sentinelLines_eq accepted,
    List.filterMap_cons_some (ofLine?_instructionLine settings hcols _),
    List.filterMap_cons_some (ofLine?_instructionLine settings hsort _),
    List.filterMap_cons_some (ofLine?_instructionLine settings hfilter _), List.filterMap_nil]
  simp only [Clause.ofInstruction, hcolumns, parse?_trim]

theorem parse?_sentinel_of_marked {rest : Text}
    (hmarked : settings.sentinel = settings.descendingMarker :: rest) (hrest : rest ≠ []) :
    SortKey.parse? settings.sentinel settings.descendingMarker settings.sentinel =
      some ⟨rest, .descending⟩ := by
  have hkey : IsKey settings.sentinel := accepted.isKey
  rw [hmarked] at hkey ⊢
  rw [SortKey.parse?_marked hkey, if_neg hrest]

theorem parse?_sentinel_iff :
    SortKey.parse? settings.sentinel settings.descendingMarker settings.sentinel =
        some ⟨settings.sentinel, .ascending⟩ ↔
      settings.sentinel.head? ≠ some settings.descendingMarker := by
  have hkey : IsKey settings.sentinel := accepted.isKey
  constructor
  · intro hread hmarked
    obtain ⟨rest, hsentinel⟩ := List.head?_eq_some_iff.mp hmarked
    rw [hsentinel] at hkey hread
    rw [SortKey.parse?_marked hkey] at hread
    split at hread
    · exact absurd hread (by simp)
    · exact absurd hread (by simp)
  · intro hplain
    let sort : SortKey := ⟨settings.sentinel, .ascending⟩
    have hsort : IsKey sort.key := hkey
    exact parse?_parameter hsort accepted.marker (fun _ => hplain) settings.sentinel

/-- A condition on the page is read as one unless the key has a sign in it. -/
theorem ofFilter_sentinel {value : Text} (trimmed : trim value = value)
    (hunsigned : ¬ ∃ c ∈ settings.sentinel, c ∈ Comparator.signs) :
    Clause.ofFilter settings.sentinel .and
        (trim (settings.sentinel ++ ' ' :: ("=".toList ++ ' ' :: value))) =
      .filter ⟨settings.sentinel, .equal, Literal.ofText value, .and⟩ := by
  have hkey : IsKey settings.sentinel := accepted.isKey
  have hfree : ∀ c ∈ settings.sentinel, c ∉ Comparator.signs := fun c hc hsign =>
    hunsigned ⟨c, hc, hsign⟩
  have hspelling : ("=".toList, Comparator.equal) ∈ Comparator.spellings := by decide
  exact Clause.ofFilter_written hkey (Comparator.not_infix_of_unsigned hfree) hspelling
    (trim_eq_self_iff.mp trimmed) (by simp) settings.sentinel .and

theorem filter?_sentinel_iff {value : Text} (trimmed : trim value = value) :
    (Clause.ofFilter settings.sentinel .and
        (trim (settings.sentinel ++ ' ' :: ("=".toList ++ ' ' :: value)))).filter? =
        some ⟨settings.sentinel, .equal, Literal.ofText value, .and⟩ ↔
      ¬ ∃ c ∈ settings.sentinel, c ∈ Comparator.signs := by
  have hkey : IsKey settings.sentinel := accepted.isKey
  constructor
  · intro hread hsigned
    rw [trim_append hkey.trimmed hkey.nonempty] at hread
    exact filter?_ofFilter_of_signed hkey hsigned _ _ _ _ hread rfl
  · intro hunsigned
    rw [ofFilter_sentinel accepted trimmed hunsigned]
    rfl

/-- Whatever the sort and the condition are read as, the lines show the page and nothing else. -/
theorem spec_read_sentinelLines (classes value : Text) :
    (Directive.read settings classes (sentinelLines settings.sentinel value)).spec =
      { classes := trim classes
        columns := [⟨settings.sentinel, .page⟩]
        headers := [settings.pageNameLabel]
        sort := SortKey.parse? settings.sentinel settings.descendingMarker settings.sentinel
        filters := (Clause.ofFilter settings.sentinel .and
          (trim (settings.sentinel ++ ' ' :: ("=".toList ++ ' ' :: value)))).filter?.toList } := by
  have hlabel : TableSpec.defaultHeaders settings.sentinel settings.pageNameLabel
      [settings.sentinel] = [settings.pageNameLabel] := by
    simp [TableSpec.defaultHeaders]
  rw [spec_read (filterMap_ofLine?_sentinelLines accepted value),
    specOf_shown_sorted_compared settings classes _ _ (kind?_ofFilter _ _ _), hlabel]

/-- Where the key reads as it looks, so do the lines, and nothing is reported. -/
theorem read_sentinelLines {value : Text} (trimmed : trim value = value)
    (hplain : settings.sentinel.head? ≠ some settings.descendingMarker)
    (hunsigned : ¬ ∃ c ∈ settings.sentinel, c ∈ Comparator.signs) (classes : Text) :
    Directive.read settings classes (sentinelLines settings.sentinel value) =
      ⟨sentinelSpec settings classes value, []⟩ := by
  have hfound := filterMap_ofLine?_sentinelLines accepted value
  have hspec := spec_read_sentinelLines accepted classes value
  rw [ofFilter_sentinel accepted trimmed hunsigned] at hfound hspec
  rw [(parse?_sentinel_iff accepted).mpr hplain] at hspec
  have hquiet : (Directive.read settings classes
      (sentinelLines settings.sentinel value)).diagnostics = [] := by
    refine diagnostics_read hfound ?_ ?_ classes
    · simp [Clause.diagnostic?]
    · simp [Clause.labels?, headersFor]
  cases hread : Directive.read settings classes (sentinelLines settings.sentinel value) with
  | mk spec diagnostics =>
    rw [hread] at hspec hquiet
    simp only at hspec hquiet
    rw [hspec, hquiet]
    rfl

end

/-- The lines on the page read as they look exactly if the key neither begins with the descending
marker nor has a sign of a comparator in it. They show the page in any case. The sort by a marked
key joins the key behind the marker. -/
theorem sentinel_lines_meaning {settings : Settings} (accepted : settings.directive.Accepted)
    {value : Text} (trimmed : trim value = value) (classes : Text) :
    let sentinel := settings.directive.sentinel
    let marked := sentinel.head? = some settings.directive.descendingMarker
    let signed := ∃ c ∈ sentinel, c ∈ Comparator.signs
    let reading := settings.read classes (sentinelLines sentinel value)
    reading.spec.columns = [⟨sentinel, .page⟩] ∧
      (reading.spec.sort = some ⟨sentinel, .ascending⟩ ↔ ¬ marked) ∧
      (reading.spec.filters = [⟨sentinel, .equal, Literal.ofText value, .and⟩] ↔ ¬ signed) ∧
      (∀ rest, sentinel = settings.directive.descendingMarker :: rest → rest ≠ [] →
        reading.spec.sort = some ⟨rest, .descending⟩ ∧
        rest ∈ (settings.query reading.spec none).joins.keys) ∧
      (¬ marked → ¬ signed →
        reading = ⟨sentinelSpec settings.directive classes value, []⟩ ∧
        settings.query reading.spec none = sentinelQuery settings.directive value ∧
        (settings.query reading.spec none).joins.keys = [] ∧
        (settings.query reading.spec none).sql settings.store =
          sentinelStatement settings.store value) := by
  intro sentinel marked signed reading
  have hspec : reading.spec = _ := spec_read_sentinelLines accepted classes value
  have hfilter := filter?_sentinel_iff accepted trimmed
  refine ⟨?_, ?_, ?_, ?_, ?_⟩
  · rw [hspec]
  · rw [hspec]
    exact parse?_sentinel_iff accepted
  · rw [hspec, ← hfilter]
    simp only [Option.toList_eq_singleton_iff]
    exact Iff.rfl
  · intro rest hmarked hrest
    have hsort : reading.spec.sort = some ⟨rest, .descending⟩ := by
      rw [hspec]
      exact parse?_sentinel_of_marked accepted hmarked hrest
    have hcolumns : reading.spec.columns ≠ [] := by
      rw [hspec]
      exact List.cons_ne_nil _ _
    have heffective : Query.effectiveSort reading.spec none = some ⟨rest, .descending⟩ := by
      simp [Query.effectiveSort, hsort, hrest]
    have hmentioned : rest ∈ reading.spec.mentions (Query.effectiveSort reading.spec none) := by
      rw [heffective, TableSpec.mentions]
      simp
    have hother : rest ≠ sentinel := by
      rw [hmarked]
      exact (List.cons_ne_self _ _).symm
    have hquery : settings.query reading.spec none = Query.ofSpec sentinel reading.spec none := rfl
    rw [hquery]
    exact ⟨hsort, mem_keys_ofSpec hcolumns sentinel none hother hmentioned⟩
  · intro hplain hunsigned
    have hne : sentinel ≠ [] := accepted.isKey.nonempty
    have hread : reading = ⟨sentinelSpec settings.directive classes value, []⟩ :=
      read_sentinelLines accepted trimmed hplain hunsigned classes
    have hquery : settings.query reading.spec none = sentinelQuery settings.directive value := by
      rw [hread]
      exact ofSpec_sentinelSpec hne classes value
    refine ⟨hread, hquery, ?_, ?_⟩
    · rw [hquery]
      rfl
    · rw [hquery, sql_sentinelQuery]

/-- By default the page has a plain key. The value has both marks and a quote in it. -/
theorem default_sentinel_lines :
    let settings : Settings := {}
    let value := "x: #'1'".toList
    let lines := ["cols: %pageid%".toList, "sort: %pageid%".toList,
      "filter: %pageid% = x\\: \\#'1'".toList]
    settings.directive.Accepted ∧ trim value = value ∧
      sentinelLines settings.directive.sentinel value = lines ∧
      settings.read [] lines = ⟨sentinelSpec settings.directive [] value, []⟩ ∧
      (settings.query (settings.read [] lines).spec none).sql settings.store =
        "SELECT \"pages\".\"page\" FROM \"pages\" WHERE \"pages\".\"page\" = 'x: #''1''' ".toList ++
          "GROUP BY \"pages\".\"page\" ORDER BY \"pages\".\"page\" ASC".toList := by
  intro settings value lines
  have accepted : settings.directive.Accepted :=
    (Settings.check_eq_ok_iff.mp Settings.check_default).2
  have trimmed : trim value = value := by decide +kernel
  have hlines : sentinelLines settings.directive.sentinel value = lines := by decide +kernel
  obtain ⟨-, -, -, -, hread⟩ := sentinel_lines_meaning accepted trimmed []
  rw [hlines] at hread
  have hunsigned : ¬ ∃ c ∈ settings.directive.sentinel, c ∈ Comparator.signs := by
    rw [Comparator.exists_sign_iff]
    decide
  obtain ⟨hread, -, -, hsql⟩ := hread (by decide) hunsigned
  refine ⟨accepted, trimmed, hlines, hread, ?_⟩
  rw [hsql]
  decide +kernel

/-- A marked key passes the check, and the table is not sorted by the page but by another key. -/
theorem marked_sentinel_is_sorted_otherwise :
    let settings : Settings := { directive := { sentinel := "^id".toList } }
    let spec := (settings.read [] (sentinelLines settings.directive.sentinel ['x'])).spec
    settings.check = .ok settings ∧ spec.columns = [⟨"^id".toList, .page⟩] ∧
      spec.sort = some ⟨"id".toList, .descending⟩ ∧
      (settings.query spec none).joins.keys = ["id".toList] := by
  intro settings spec
  have hvalid : settings.check = .ok settings := by decide +kernel
  have accepted : settings.directive.Accepted := (Settings.check_eq_ok_iff.mp hvalid).2
  have hspec : spec = _ := spec_read_sentinelLines accepted [] ['x']
  have hsort : spec.sort = some ⟨"id".toList, .descending⟩ := by
    rw [hspec]
    exact parse?_sentinel_of_marked accepted rfl (List.cons_ne_nil _ _)
  refine ⟨hvalid, ?_, hsort, ?_⟩
  · rw [hspec]
  · rw [hspec]
    decide +kernel

end WikiPivot
