import WikiPivot.Proofs.Directive.SortParameter
import WikiPivot.Proofs.Directive.WellFormed
import WikiPivot.Proofs.Html.HeaderLinks
import WikiPivot.Proofs.Query.Keys

/-! # Sorting by a header

The link of a header asks for its column, and for the other direction if the table is sorted by it.
What it asks for is a text, in which a marker in front stands for descending. A key that begins with
the marker itself is asked for in ascending order as it is, and its first character is then taken
for the marker: the link of such a column leads to another sort.
-/
namespace WikiPivot

namespace SortKey

/-- A sort by the column is turned round, and any other one gives way to an ascending one. -/
def Toggles (sort : Option SortKey) (key : Text) (next : Option SortKey) : Prop :=
  (∀ direction, sort = some ⟨key, direction⟩ → next = some ⟨key, direction.reversed⟩) ∧
    ((∀ direction, sort ≠ some ⟨key, direction⟩) → next = some ⟨key, .ascending⟩)

open Html.LinkSettings in
theorem offeredSort_of_ne {sort : Option SortKey} {key : Text}
    (h : ∀ direction, sort ≠ some ⟨key, direction⟩) : offeredSort sort key = ⟨key, .ascending⟩ := by
  have hnone : sort.filter (·.key = key) = none := by
    rw [Option.filter_eq_none_iff]
    rintro ⟨_, direction⟩ hsort hkey
    obtain rfl := of_decide_eq_true hkey
    exact h direction hsort
  rw [offeredSort, hnone]

open Html.LinkSettings in
theorem offeredSort_self (key : Text) (direction : Direction) :
    offeredSort (some ⟨key, direction⟩) key = ⟨key, direction.reversed⟩ := by
  rw [offeredSort, Option.filter_some, if_pos (decide_eq_true rfl)]
  rfl

open Html.LinkSettings in
/-- Toggling is what the header of a column offers. -/
theorem toggles_iff {sort next : Option SortKey} {key : Text} :
    Toggles sort key next ↔ next = some (offeredSort sort key) := by
  unfold Toggles
  by_cases hsorted : ∃ direction, sort = some ⟨key, direction⟩
  · obtain ⟨direction, rfl⟩ := hsorted
    rw [offeredSort_self]
    constructor
    · exact fun h => h.1 direction rfl
    · rintro rfl
      refine ⟨?_, fun h => absurd rfl (h direction)⟩
      rintro _ ⟨⟩
      rfl
  · have hother := not_exists.mp hsorted
    rw [offeredSort_of_ne hother]
    exact ⟨fun h => h.2 hother, fun h => ⟨fun direction hsort => absurd hsort (hother direction),
      fun _ => h⟩⟩

end SortKey

namespace Settings

variable {settings : Settings} {spec : TableSpec}

/-- A sort that is asked for, or the directive's own, was read and can be written. -/
theorem writable_requested (wellFormed : spec.WellFormed settings.directive)
    (parameter : Option Text) :
    ∀ sort ∈ (settings.requestedSort parameter).or spec.sort,
      sort.Writable settings.directive.descendingMarker := by
  intro sort hsort
  rcases Option.or_eq_some_iff.mp hsort with hasked | ⟨-, hown⟩
  · obtain ⟨token, -, hread⟩ := Option.bind_eq_some_iff.mp hasked
    exact SortKey.writable_of_parse? hread
  · exact wellFormed.sort sort hown

/-- Sorts that were read have keys, so what is asked for takes precedence. -/
theorem sort_query (h : spec.columns ≠ []) (wellFormed : spec.WellFormed settings.directive)
    (parameter : Option Text) :
    (settings.query spec parameter).sort = (settings.requestedSort parameter).or spec.sort := by
  have heither : ∀ sort ∈ (settings.requestedSort parameter).or spec.sort, sort.key ≠ [] :=
    fun sort hsort => (writable_requested wellFormed parameter sort hsort).key.nonempty
  have hasked : ∀ sort ∈ settings.requestedSort parameter, sort.key ≠ [] :=
    fun sort hsort => heither sort (Option.or_eq_some_iff.mpr (Or.inl hsort))
  rw [Settings.query, ofSpec_eq h]
  simp only [Query.effectiveSort, filter_keyed hasked, filter_keyed heither]

def headerSort (settings : Settings) (spec : TableSpec) (sort : Option SortKey) (key : Text) :
    Option SortKey :=
  (settings.query spec (some ((Html.LinkSettings.offeredSort sort key).parameter
    settings.directive.descendingMarker))).sort

section

variable (h : spec.columns ≠ []) (wellFormed : spec.WellFormed settings.directive)
  {sort : Option SortKey}

include h wellFormed

/-- The header of a column whose key has no marker toggles the sort by it. -/
theorem toggles_of_unmarked (accepted : settings.directive.Accepted) {key : Text}
    (hkey : IsKey key) (hplain : key.head? ≠ some settings.directive.descendingMarker) :
    SortKey.Toggles sort key (settings.headerSort spec sort key) := by
  have hoffered : (Html.LinkSettings.offeredSort sort key).key = key := by
    by_cases hsorted : ∃ direction, sort = some ⟨key, direction⟩
    · obtain ⟨direction, rfl⟩ := hsorted
      rw [SortKey.offeredSort_self]
    · rw [SortKey.offeredSort_of_ne (not_exists.mp hsorted)]
  rw [SortKey.toggles_iff, headerSort, sort_query h wellFormed, requestedSort, Option.bind_some,
    parse?_parameter (hoffered.symm ▸ hkey) accepted.marker (fun _ => hoffered.symm ▸ hplain),
    Option.some_or]

variable (hsort : ∀ asked ∈ sort, asked.Writable settings.directive.descendingMarker)
  {rest : Text} (hkey : IsKey (settings.directive.descendingMarker :: rest))

include hsort

omit h wellFormed in
/-- The header of a column whose key begins with the marker offers the column in ascending order,
for no sort in force is by such a key in ascending order. -/
theorem offeredSort_of_marked (rest : Text) :
    Html.LinkSettings.offeredSort sort (settings.directive.descendingMarker :: rest) =
      ⟨settings.directive.descendingMarker :: rest, .ascending⟩ := by
  by_cases hsorted : ∃ direction,
      sort = some ⟨settings.directive.descendingMarker :: rest, direction⟩
  · obtain ⟨direction, rfl⟩ := hsorted
    rw [SortKey.offeredSort_self]
    cases direction with
    | ascending => exact absurd rfl ((hsort _ rfl).unmarked rfl)
    | descending => rfl
  · exact SortKey.offeredSort_of_ne (not_exists.mp hsorted)

include hkey

/-- The header of such a column leads to the key behind the marker, or, where none is left, it asks
for nothing. -/
theorem headerSort_of_marked :
    settings.headerSort spec sort (settings.directive.descendingMarker :: rest) =
      if rest = [] then spec.sort else some ⟨rest, .descending⟩ := by
  have hread := SortKey.parse?_marked hkey settings.directive.sentinel
  rw [headerSort, offeredSort_of_marked hsort, SortKey.parameter, sort_query h wellFormed,
    requestedSort, Option.bind_some, hread]
  by_cases hrest : rest = []
  · rw [if_pos hrest, if_pos hrest, Option.none_or]
  · rw [if_neg hrest, if_neg hrest, Option.some_or]

theorem not_toggles_of_marked :
    ¬ SortKey.Toggles sort (settings.directive.descendingMarker :: rest)
      (settings.headerSort spec sort (settings.directive.descendingMarker :: rest)) := by
  rw [SortKey.toggles_iff, headerSort_of_marked h wellFormed hsort hkey,
    offeredSort_of_marked hsort]
  by_cases hrest : rest = []
  · -- the directive's own sort is not by this key either
    rw [if_pos hrest]
    intro hown
    exact (wellFormed.sort _ hown).unmarked rfl rfl
  · rw [if_neg hrest]
    exact fun hsame => by cases hsame

end

/-- Whatever the table is sorted by, the link of a column leads to the sort by that column, the
other way round if it was sorted by it, exactly if its key does not begin with the marker. With a
marker in front it leads to the descending sort by the key behind the marker, or to the directive's
own sort if there is no such key. -/
theorem header_toggles_iff_unmarked (valid : settings.check = .ok settings) (classes : Text)
    (lines : List Text) (current : Option Text) (pageUrl wikiBase : Text)
    (rows : List (List Text)) :
    let marker := settings.directive.descendingMarker
    let spec := (settings.read classes lines).spec
    let sort := (settings.query spec current).sort
    let links := { Html.LinkSettings.ofSettings settings pageUrl with wikiBase }
    List.Forall₂
      (fun column offered => ∃ parameter, offered = some parameter ∧
        (SortKey.Toggles sort column.key (settings.query spec (some parameter)).sort ↔
          column.key.head? ≠ some marker) ∧
        ∀ rest, column.key = marker :: rest →
          (settings.query spec (some parameter)).sort =
            if rest = [] then spec.sort else some ⟨rest, .descending⟩)
      spec.columns (Html.headerParameters (links.render (.ofSpec spec sort rows))) := by
  intro marker spec sort links
  have wellFormed : spec.WellFormed settings.directive :=
    Directive.wellFormed_read settings.directive classes lines
  have hoffered : Html.headerParameters (links.render (.ofSpec spec sort rows)) =
      spec.columns.map fun column =>
        some ((Html.LinkSettings.offeredSort sort column.key).parameter marker) := by
    have hfirst : (spec.columns.zip spec.headers).map Prod.fst = spec.columns :=
      List.map_fst_zip wellFormed.labelled.ge
    rw [links.headerParameters_render, ← congrArg (List.map _) hfirst, List.map_map]
    rfl
  rw [hoffered, List.forall₂_map_right_iff, List.forall₂_same]
  intro column hcolumn
  have hne : spec.columns ≠ [] := List.ne_nil_of_mem hcolumn
  have hkey : IsKey column.key := (wellFormed.columns column hcolumn).key
  have hsort : ∀ asked ∈ sort, asked.Writable marker := by
    have hforce : sort = (settings.requestedSort current).or spec.sort :=
      sort_query hne wellFormed current
    exact hforce ▸ writable_requested wellFormed current
  refine ⟨_, rfl, ?_, ?_⟩
  · constructor
    · intro htoggles hmarked
      obtain ⟨rest, hrest⟩ := List.head?_eq_some_iff.mp hmarked
      rw [hrest] at htoggles hkey
      exact not_toggles_of_marked hne wellFormed hsort hkey htoggles
    · exact toggles_of_unmarked hne wellFormed (check_eq_ok_iff.mp valid).2 hkey
  · intro rest hrest
    rw [hrest] at hkey ⊢
    exact headerSort_of_marked hne wellFormed hsort hkey

/-- Of two headers the one without a marker toggles, and the other one leads elsewhere. -/
theorem size_toggles_and_marked_name_does_not :
    let settings : Settings := {}
    let spec := (settings.read [] ["cols: size, ^name".toList, "sort: size".toList]).spec
    let sort := (settings.query spec none).sort
    settings.check = .ok settings ∧
      ∃ size name,
        SortKey.Toggles sort "size".toList (settings.query spec (some size)).sort ∧
        ¬ SortKey.Toggles sort "^name".toList (settings.query spec (some name)).sort := by
  intro settings spec sort
  have valid : settings.check = .ok settings := check_default
  have hcolumns : spec.columns = [⟨"size".toList, .text⟩, ⟨"^name".toList, .text⟩] := by
    decide +kernel
  have hheaders : List.Forall₂ _ spec.columns _ := header_toggles_iff_unmarked valid []
    ["cols: size, ^name".toList, "sort: size".toList] none "list.php".toList [] []
  rw [hcolumns] at hheaders
  obtain ⟨_, _, ⟨size, -, hsize, -⟩, hrest, -⟩ := List.forall₂_cons_left_iff.mp hheaders
  obtain ⟨_, _, ⟨name, -, hname, -⟩, -, -⟩ := List.forall₂_cons_left_iff.mp hrest
  exact ⟨valid, size, name, hsize.mpr (by decide), fun h => hname.mp h (by decide)⟩

/-- A table that is sorted by a key with a marker in front, in descending order: the link of its
header leads to a descending sort again, and by another key. -/
theorem marked_header_leads_to_another_key :
    let settings : Settings := {}
    let spec := (settings.read [] ["cols: ^name".toList, "sort: ^^name".toList]).spec
    let sort := (settings.query spec none).sort
    let links := Html.LinkSettings.ofSettings settings "list.php".toList
    settings.check = .ok settings ∧ sort = some ⟨"^name".toList, .descending⟩ ∧
      Html.headerParameters (links.render (.ofSpec spec sort [])) = [some "^name".toList] ∧
      (settings.query spec (some "^name".toList)).sort = some ⟨"name".toList, .descending⟩ ∧
      ¬ SortKey.Toggles sort "^name".toList (settings.query spec (some "^name".toList)).sort := by
  intro settings spec sort links
  have hsort : sort = some ⟨"^name".toList, .descending⟩ := by decide +kernel
  have hnext : (settings.query spec (some "^name".toList)).sort =
      some ⟨"name".toList, .descending⟩ := by decide +kernel
  refine ⟨check_default, hsort, by decide +kernel, hnext, ?_⟩
  rw [hsort, hnext]
  intro htoggles
  exact absurd (htoggles.1 .descending rfl) (by decide)

end Settings

end WikiPivot
