import WikiPivot.Pivot
import WikiPivot.Proofs.Directive.Clauses
import WikiPivot.Proofs.Directive.Reading
import WikiPivot.Proofs.Settings

/-! # The sort parameter

A request that asks for a sort gets the query that the directive has with one more sort line.
-/
namespace WikiPivot

open Text Directive

theorem SortKey.key_ne_nil_of_parse? {sentinel : Text} {marker : Char} {token : Text}
    {sort : SortKey} (h : SortKey.parse? sentinel marker token = some sort) : sort.key ≠ [] := by
  rw [SortKey.parse?] at h
  split at h
  · exact absurd h (by simp)
  · rename_i hkey
    obtain rfl := Option.some.inj h
    simpa using hkey

theorem filterMap_ofLine?_sort (settings : DirectiveSettings) (lines : List Text)
    (argument : Text) :
    (lines ++ [instructionLine "sort".toList argument]).filterMap (Clause.ofLine? settings) =
      lines.filterMap (Clause.ofLine? settings) ++
        [.sort (SortKey.parse? settings.sentinel settings.descendingMarker argument)] := by
  have hsort : ("sort".toList, Instruction.sort) ∈ Instruction.aliases := by decide
  rw [List.filterMap_append,
    List.filterMap_cons_some (ofLine?_instructionLine settings hsort argument),
    Clause.ofInstruction, parse?_trim, List.filterMap_nil]

/-- One more sort clause counts if it names a key, and changes nothing else. -/
theorem specOf_append_sort (settings : DirectiveSettings) (classes : Text) (found : List Clause)
    (sort : Option SortKey) :
    specOf settings classes (found ++ [.sort sort]) =
      { specOf settings classes found with
        sort := sort.or (specOf settings classes found).sort } := by
  have hcolumns : columnsOf (found ++ [Clause.sort sort]) = columnsOf found := by
    simp [columnsOf, Clause.columns]
  have hlabels : (found ++ [Clause.sort sort]).filterMap Clause.labels? =
      found.filterMap Clause.labels? := by
    simp [Clause.labels?]
  have hfilters : (found ++ [Clause.sort sort]).filterMap Clause.filter? =
      found.filterMap Clause.filter? := by
    simp [Clause.filter?]
  have hsort : ((found ++ [Clause.sort sort]).filterMap Clause.sort?).getLast? =
      sort.or (found.filterMap Clause.sort?).getLast? := by
    rw [List.filterMap_append, List.getLast?_append]
    cases sort with
    | none => rfl
    | some sort => rfl
  rw [specOf, hcolumns, hlabels, hfilters, hsort]
  rfl

theorem filter_keyed {sort : Option SortKey} (h : ∀ asked ∈ sort, asked.key ≠ []) :
    sort.filter (!·.key.isEmpty) = sort := by
  cases sort with
  | none => rfl
  | some asked =>
    have hkey : asked.key ≠ [] := h asked rfl
    rw [Option.filter_some, if_pos (by simpa using hkey)]

/-- What a request asks for takes precedence as a directive's own sort would. -/
theorem ofSpec_override (sentinel : Text) (spec : TableSpec) {override : Option SortKey}
    (h : ∀ sort ∈ override, sort.key ≠ []) :
    Query.ofSpec sentinel spec override =
      Query.ofSpec sentinel { spec with sort := override.or spec.sort } none := by
  -- The compiler drops an override without a key, but a parsed sort always has one.
  have hsort : Query.effectiveSort spec override =
      Query.effectiveSort { spec with sort := override.or spec.sort } none := by
    rw [Query.effectiveSort, filter_keyed h]
    rfl
  rw [Query.ofSpec, hsort]
  rfl

namespace Settings

theorem spec_read_append_sort (settings : Settings) (classes : Text) (lines : List Text)
    (parameter : Text) :
    (settings.read classes (lines ++ [instructionLine "sort".toList parameter])).spec =
      { (settings.read classes lines).spec with
        sort := (settings.requestedSort (some parameter)).or
          (settings.read classes lines).spec.sort } := by
  rw [Settings.read, spec_read (filterMap_ofLine?_sort settings.directive lines parameter),
    specOf_append_sort, Settings.read, spec_read rfl]
  rfl

/-- Nothing is asked for by blanks or by a marker alone. -/
theorem requestedSort_eq_none {settings : Settings} (accepted : settings.directive.Accepted)
    {parameter : Text}
    (h : trim parameter = [] ∨ trim parameter = [settings.directive.descendingMarker]) :
    settings.requestedSort (some parameter) = none := by
  rw [requestedSort, Option.bind_some, ← parse?_trim]
  rcases h with h | h
  · rw [h]
    rfl
  · have hkey : IsKey [settings.directive.descendingMarker] :=
      isKey_marked accepted.marker (List.forall_mem_nil _) rfl
    rw [h, SortKey.parse?, ColumnMention.ofToken_key hkey]
    simp [SortKey.ofKey]

/-- A sort parameter and a sort line with the same text lead to the same query. Where the text names
no key the line is passed over, and the directive's own sort stays in force. -/
theorem query_parameter_eq_line {settings : Settings} (valid : settings.check = .ok settings)
    (classes : Text) (lines : List Text) (parameter : Text) :
    let spec := (settings.read classes lines).spec
    let extended := (settings.read classes
      (lines ++ [instructionLine "sort".toList parameter])).spec
    settings.query spec (some parameter) = settings.query extended none ∧
      (trim parameter = [] ∨ trim parameter = [settings.directive.descendingMarker] →
        settings.requestedSort (some parameter) = none ∧ extended = spec ∧
          settings.query spec (some parameter) = settings.query spec none) := by
  intro spec extended
  have hextended : extended =
      { spec with sort := (settings.requestedSort (some parameter)).or spec.sort } :=
    settings.spec_read_append_sort classes lines parameter
  have hsame : settings.query spec (some parameter) = settings.query extended none := by
    rw [hextended]
    exact ofSpec_override _ _ fun sort hsort => SortKey.key_ne_nil_of_parse? hsort
  refine ⟨hsame, ?_⟩
  intro hsilent
  have hnone := requestedSort_eq_none (check_eq_ok_iff.mp valid).2 hsilent
  have hspec : extended = spec := by rw [hextended, hnone, Option.none_or]
  exact ⟨hnone, hspec, by rw [hsame, hspec]⟩

/-- Both ways a marked key with a hash and a colon takes the place of the directive's own sort,
which a marker alone leaves in force. -/
theorem marked_sort_parameter :
    let settings : Settings := {}
    let lines := ["select: %pageid%, size".toList, "sort: size".toList]
    let spec := (settings.read [] lines).spec
    settings.check = .ok settings ∧
      settings.query spec (some " ^n#a:b\\ c".toList) =
        settings.query
          (settings.read [] (lines ++ ["sort:  ^n\\#a\\:b\\ c".toList])).spec none ∧
      (settings.query spec (some " ^n#a:b\\ c".toList)).sort =
        some ⟨"n#a:b\\".toList, .descending⟩ ∧
      (settings.query spec (some " ^ ".toList)).sort = some ⟨"size".toList, .ascending⟩ := by
  intro settings lines spec
  have valid : settings.check = .ok settings := check_default
  have hline : instructionLine "sort".toList " ^n#a:b\\ c".toList =
      "sort:  ^n\\#a\\:b\\ c".toList := by decide +kernel
  have hmarked := (query_parameter_eq_line valid [] lines " ^n#a:b\\ c".toList).1
  rw [hline] at hmarked
  have hmarker : trim " ^ ".toList = ['^'] := by decide +kernel
  have hsilent := (query_parameter_eq_line valid [] lines " ^ ".toList).2 (Or.inr hmarker)
  refine ⟨valid, hmarked, by decide +kernel, ?_⟩
  rw [hsilent.2.2]
  decide +kernel

end Settings

end WikiPivot
