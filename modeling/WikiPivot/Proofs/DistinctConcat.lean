import WikiPivot.DistinctConcat
import WikiPivot.Proofs.Distinct

/-! # What the aggregate makes of a run of rows

A group holds the values that are not missing, repetitions included, and the separator of the last
of their rows. Its text is settled by these two, so rows without a value come and go unnoticed, and
a repeated value matters only for its separator.
-/
namespace WikiPivot.DistinctConcat

def lastSeparator? (rows : List (Option Text × Option Text)) : Option Text :=
  ((rows.filter (·.1.isSome)).getLast?).map (·.2.getD defaultSeparator)

theorem lastSeparator?_append_none (rows : List (Option Text × Option Text))
    (separator : Option Text) :
    lastSeparator? (rows ++ [(none, separator)]) = lastSeparator? rows := by
  simp [lastSeparator?]

theorem lastSeparator?_append_some (rows : List (Option Text × Option Text)) (value : Text)
    (separator : Option Text) :
    lastSeparator? (rows ++ [(some value, separator)]) =
      some (separator.getD defaultSeparator) := by
  simp [lastSeparator?]

def gathered (rows : List (Option Text × Option Text)) : DistinctConcat :=
  ⟨rows.filterMap Prod.fst, lastSeparator? rows⟩

theorem step_gathered (rows : List (Option Text × Option Text)) (value separator : Option Text) :
    (gathered rows).step value separator = gathered (rows ++ [(value, separator)]) := by
  cases value with
  | none => simp [gathered, step, lastSeparator?_append_none]
  | some value => simp [gathered, step, add, lastSeparator?_append_some]

theorem foldl_step (rows : List (Option Text × Option Text)) :
    rows.foldl (fun group (value, separator) => group.step value separator) empty =
      gathered rows := by
  induction rows using List.reverseRecOn with
  | nil => rfl
  | append_singleton rows row ih =>
    rw [List.foldl_append, ih]
    exact step_gathered rows row.1 row.2

theorem ofRows_eq (rows : List (Option Text × Option Text)) :
    ofRows rows = ((lastSeparator? rows).getD defaultSeparator).intercalate
      (distinct (rows.filterMap Prod.fst)) := by
  rw [ofRows, foldl_step]
  rfl

theorem lastSeparator?_eq_none_iff {rows : List (Option Text × Option Text)} :
    lastSeparator? rows = none ↔ rows.filterMap Prod.fst = [] := by
  simp [lastSeparator?, List.filterMap_eq_nil_iff]

/-- Under one separator the aggregate joins the distinct values that are not missing. -/
theorem ofRows_const (separator : Text) (values : List (Option Text)) :
    ofRows (values.map (·, some separator)) =
      separator.intercalate (distinct (values.filterMap id)) := by
  have htexts : (values.map (·, some separator)).filterMap Prod.fst = values.filterMap id := by
    rw [List.filterMap_map]
    rfl
  rw [ofRows_eq, htexts]
  cases hlast : lastSeparator? (values.map (·, some separator)) with
  | none =>
    rw [← htexts, lastSeparator?_eq_none_iff.mp hlast]
    rfl
  | some last =>
    obtain ⟨row, hrow, rfl⟩ := Option.map_eq_some_iff.mp hlast
    have hmem := List.mem_of_mem_filter (List.mem_of_getLast? hrow)
    obtain ⟨value, -, rfl⟩ := List.mem_map.mp hmem
    rfl

theorem text_foldl_add (separator : Text) (values : List Text) :
    (values.foldl (·.add · separator) empty).text = separator.intercalate (distinct values) := by
  have h := ofRows_const separator (values.map some)
  rw [ofRows, List.foldl_map, List.foldl_map, List.filterMap_map] at h
  simpa [step] using h

section

variable (rows : List (Sql.Value × Sql.Value))

def rowTexts (row : Sql.Value × Sql.Value) : Option Text × Option Text :=
  (row.1.text?, row.2.text?)

theorem foldl_stepRow (group : DistinctConcat) :
    rows.foldl stepRow (some group) =
      some ((rows.map rowTexts).foldl (fun group (value, separator) => group.step value separator)
        group) := by
  induction rows generalizing group with
  | nil => rfl
  | cons row rows ih => exact ih _

/-- A group that no row began has the text of an empty one. -/
theorem ofStatementRows_eq_ofRows : ofStatementRows rows = ofRows (rows.map rowTexts) := by
  cases rows with
  | nil => rfl
  | cons row rows =>
    rw [ofStatementRows, List.foldl_cons, stepRow, foldl_stepRow]
    rfl

def separatorInForce : Text :=
  (((rows.filter (·.1.text?.isSome)).getLast?).bind (·.2.text?)).getD defaultSeparator

theorem lastSeparator?_rowTexts :
    (lastSeparator? (rows.map rowTexts)).getD defaultSeparator = separatorInForce rows := by
  have hfilter : (rows.map rowTexts).filter (·.1.isSome) =
      (rows.filter (·.1.text?.isSome)).map rowTexts := List.filter_map
  rw [lastSeparator?, hfilter, List.getLast?_map, separatorInForce]
  cases (rows.filter (·.1.text?.isSome)).getLast? with
  | none => rfl
  | some row => cases hseparator : row.2.text? <;> simp [rowTexts, hseparator]

theorem ofStatementRows_eq : ofStatementRows rows =
    (separatorInForce rows).intercalate (distinct (rows.filterMap (·.1.text?))) := by
  rw [ofStatementRows_eq_ofRows, ofRows_eq, lastSeparator?_rowTexts, List.filterMap_map]
  rfl

end

theorem separatorInForce_insert_missing {value : Sql.Value} (hmissing : value.text? = none)
    (before after : List (Sql.Value × Sql.Value)) (separator : Sql.Value) :
    separatorInForce (before ++ (value, separator) :: after) =
      separatorInForce (before ++ after) := by
  simp [separatorInForce, hmissing]

theorem separatorInForce_append {value : Sql.Value} {shown : Text}
    (htext : value.text? = some shown) (rows : List (Sql.Value × Sql.Value))
    (separator : Sql.Value) :
    separatorInForce (rows ++ [(value, separator)]) = separator.text?.getD defaultSeparator := by
  simp [separatorInForce, htext]

/-- The aggregate joins the texts of the values, each where it occurs first, with the separator in
force. A row without a value may stand anywhere, and so may a repeated value at the end if it leaves
the separator in force. -/
theorem aggregate_joins_first_occurrences :
    (∀ rows : List (Sql.Value × Sql.Value),
      let texts := rows.filterMap (·.1.text?)
      ofStatementRows rows =
        if texts = [] then [] else (separatorInForce rows).intercalate texts.eraseDups) ∧
    (∀ (before after : List (Sql.Value × Sql.Value)) (value separator : Sql.Value),
      value.text? = none →
        ofStatementRows (before ++ (value, separator) :: after) =
          ofStatementRows (before ++ after)) ∧
    ∀ (rows : List (Sql.Value × Sql.Value)) (value separator : Sql.Value),
      (∃ shown ∈ rows.filterMap (·.1.text?), value.text? = some shown) →
      separator.text?.getD defaultSeparator = separatorInForce rows →
        ofStatementRows (rows ++ [(value, separator)]) = ofStatementRows rows := by
  refine ⟨?_, ?_, ?_⟩
  · intro rows texts
    rw [ofStatementRows_eq, ← eraseDups_eq_distinct]
    split
    · rename_i hnone
      rw [show rows.filterMap (·.1.text?) = [] from hnone]
      rfl
    · rfl
  · intro before after value separator hmissing
    rw [ofStatementRows_eq, ofStatementRows_eq, separatorInForce_insert_missing hmissing]
    simp [hmissing]
  · rintro rows value separator ⟨shown, hshown, htext⟩ hseparator
    have htexts : (rows ++ [(value, separator)]).filterMap (·.1.text?) =
        rows.filterMap (·.1.text?) ++ [shown] := by simp [htext]
    have hrepeated : distinct (rows.filterMap (·.1.text?) ++ [shown]) =
        distinct (rows.filterMap (·.1.text?)) :=
      distinct_append_of_subset (List.forall_mem_singleton.mpr hshown)
    rw [ofStatementRows_eq, ofStatementRows_eq, separatorInForce_append htext, htexts, hrepeated,
      hseparator]

/-- A number and its digits are one text. The separator that is missing beside the number holds as a
comma until another value comes. -/
theorem digits_repeat_their_number :
    let rows : List (Sql.Value × Sql.Value) := [(.text [98], .text [59]), (.integer 7, .null),
      (.null, .text [43]), (.blob [55], .text [45])]
    ofStatementRows (rows.take 3) = "b,7".toList ∧ ofStatementRows rows = "b-7".toList ∧
      ofStatementRows (rows.take 1 ++ (.null, .text [33]) :: rows.drop 1) = "b-7".toList ∧
      ofStatementRows (rows ++ [(.text [98], .blob [45])]) = "b-7".toList := by
  intro rows
  obtain ⟨hreference, hmissing, hrepeated⟩ := aggregate_joins_first_occurrences
  have hrows : ofStatementRows rows = "b-7".toList := by
    rw [hreference]
    decide +kernel
  refine ⟨?_, hrows, ?_, ?_⟩
  · rw [hreference]
    decide +kernel
  · rw [hmissing (rows.take 1) (rows.drop 1) .null (.text [33]) rfl, List.take_append_drop, hrows]
  · have hoccurs : ['b'] ∈ rows.filterMap (·.1.text?) := by decide +kernel
    rw [hrepeated rows (.text [98]) (.blob [45]) ⟨['b'], hoccurs, by decide +kernel⟩
      (by decide +kernel), hrows]

end WikiPivot.DistinctConcat
