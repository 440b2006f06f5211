import WikiPivot.Proofs.DistinctConcat
import WikiPivot.Proofs.Html.ShownText

/-! # The values of a cell

The aggregate joins the distinct values of a group, and the cell is cut at the same separator when
it is rendered. Where the separator has no border and no value holds it, the values come back, each
whole and once.
-/
namespace WikiPivot.Html

namespace LinkSettings

variable (links : LinkSettings)

/-- The separator is printed escaped between the values. -/
theorem flatMap_print_intersperse (type : ColumnType) (values : List Text) :
    ((values.map (links.formatValue type)).intersperse (.text links.separator)).flatMap
        Inline.print =
      (escape links.separator).intercalate
        (values.map fun value => (links.formatValue type value).print) := by
  rw [flatMap_intersperse, List.map_map]
  rfl

theorem cellValues_intercalate (hne : links.separator ≠ [])
    (hun : Text.Unbordered links.separator) {values : List Text} (hvalues : values ≠ [])
    (hfree : ∀ value ∈ values, ¬ links.separator <:+: value) :
    links.cellValues (links.separator.intercalate values) = values := by
  obtain ⟨mark, more, hseparator⟩ := List.exists_cons_of_ne_nil hne
  rw [hseparator] at hun hfree
  rw [cellValues, hseparator]
  exact Text.sections_intercalate hun hvalues hfree

end LinkSettings

/-- A cell of the aggregate is formatted value by value: each distinct value once and whole, in the
order of first occurrence, with the escaped separator between them. -/
theorem formatted_values_are_aggregated (links : LinkSettings) (hne : links.separator ≠ [])
    (hun : Text.Unbordered links.separator) (values : List Text)
    (hfree : ∀ value ∈ values, ¬ links.separator <:+: value) (type : ColumnType) :
    let cell := (values.foldl (·.add · links.separator) DistinctConcat.empty).text
    cell ≠ [] →
      links.cellValues cell = values.eraseDups ∧
      links.formatCell type cell =
        (values.eraseDups.map (links.formatValue type)).intersperse (.text links.separator) ∧
      (links.formatCell type cell).flatMap Inline.print =
        (escape links.separator).intercalate
          (values.eraseDups.map fun value => (links.formatValue type value).print) := by
  intro cell hcell
  have hjoined : cell = links.separator.intercalate (distinct values) :=
    DistinctConcat.text_foldl_add links.separator values
  have hdistinct : distinct values ≠ [] := by
    intro hnil
    rw [hjoined, hnil] at hcell
    exact hcell rfl
  have hvalues : links.cellValues cell = distinct values := by
    rw [hjoined]
    exact links.cellValues_intercalate hne hun hdistinct fun value hvalue =>
      hfree value (mem_distinct.mp hvalue)
  have hformat : links.formatCell type cell =
      ((distinct values).map (links.formatValue type)).intersperse (.text links.separator) := by
    rw [LinkSettings.formatCell, if_neg (by simpa using hcell), hvalues]
  rw [eraseDups_eq_distinct]
  refine ⟨hvalues, hformat, ?_⟩
  rw [hformat, links.flatMap_print_intersperse]

/-- The empty value is one of the values, and stands as nothing between two separators. -/
theorem mail_links_and_other_values_are_aggregated :
    let links : LinkSettings :=
      { pageUrl := "/wiki".toList
        sortParameter := "sort".toList
        descendingMarker := '!'
        separator := "& ".toList }
    let values := ["ann@x".toList, [], "ann@x".toList, "b<c".toList, []]
    let cell := (values.foldl (·.add · links.separator) DistinctConcat.empty).text
    links.separator ≠ [] ∧ Text.Unbordered links.separator ∧
      (∀ value ∈ values, ¬ links.separator <:+: value) ∧ cell ≠ [] ∧
      links.cellValues cell = ["ann@x".toList, [], "b<c".toList] ∧
      (links.formatCell .mail cell).flatMap Inline.print =
        "<a href=\"mailto:ann@x\" class=\"mail\">ann@x</a>&amp; &amp; b&lt;c".toList := by
  intro links values cell
  have hne : links.separator ≠ [] := by decide
  have hun : Text.Unbordered links.separator := by decide
  have hfree : ∀ value ∈ values, ¬ links.separator <:+: value := by decide
  have hcell : cell ≠ [] := by decide
  obtain ⟨hvalues, -, hprint⟩ :=
    formatted_values_are_aggregated links hne hun values hfree .mail hcell
  exact ⟨hne, hun, hfree, hcell, hvalues.trans (by decide), hprint.trans (by decide)⟩

end WikiPivot.Html
