import WikiPivot.Proofs.Directive.Comparisons
import WikiPivot.Proofs.Directive.Kinds
import WikiPivot.Proofs.Directive.LineText
import Mathlib.Data.List.Forall2

/-! # Every line is accounted for

A line without a name and an argument says nothing. Any other line has its effect or is reported
under its number, and of the filter lines each one becomes a condition or a report.
-/
namespace WikiPivot

open Text

/-- A token names no column if it is blank. -/
theorem ColumnMention.key_eq_nil_iff {sentinel token : Text} :
    (ofToken sentinel token).key = [] ↔ Blanks token := by
  have hword : (firstWord (trim token)).1 = [] ↔ trim token = [] := by
    constructor
    · intro h
      cases ht : trim token with
      | nil => rfl
      | cons c rest =>
        have hc : isBlank c = false := (trimmed_trim token).first c (by rw [ht]; rfl)
        rw [ht, firstWord, List.takeWhile_cons_of_pos (by simp [hc])] at h
        exact absurd h (List.cons_ne_nil _ _)
    · intro h
      rw [h]
      rfl
  have hlower : ∀ word : Text, lowercase word = [] ↔ word = [] := by
    intro word
    constructor
    · intro h
      have hlength := length_le_length_lowercaseAfter [] word
      rw [← lowercase, h] at hlength
      exact List.eq_nil_of_length_eq_zero (Nat.le_zero.mp hlength)
    · rintro rfl
      rfl
  rw [ofToken, hlower, hword, trim_eq_nil_iff]

namespace Diagnostic

def line? : Diagnostic → Option Nat
  | unknownOption line _ => some line
  | malformedFilter line _ _ => some line
  | headerCount .. => none

end Diagnostic

namespace Directive

inductive FilterOutcome (sentinel : Text) (logic : Logic) (argument : Text) : Clause → Prop where
  | unsigned : (∀ token ∈ Comparator.spellings.map Prod.fst, ¬ token <:+: argument) →
      FilterOutcome sentinel logic argument (.malformed argument .missingComparator)
  | keyless {cut : Comparison} : LeftmostCut argument cut → Blanks cut.left →
      FilterOutcome sentinel logic argument (.malformed argument .missingKey)
  | condition {cut : Comparison} {comparator : Comparator} : LeftmostCut argument cut →
      ¬ Blanks cut.left → (cut.token, comparator) ∈ Comparator.spellings →
      FilterOutcome sentinel logic argument (.filter
        { key := (ColumnMention.ofToken sentinel cut.left).key
          comparator
          value := Literal.ofText (comparator.prepare (trim cut.right))
          logic })

def conditions (lines : List Text) : List (Logic × Text) :=
  lines.filterMap fun line =>
    match given? line with
    | some (.filter logic, argument) => some (logic, argument)
    | _ => none

def headerArguments (lines : List Text) : List Text :=
  lines.filterMap fun line =>
    match given? line with
    | some (.headers, argument) => some argument
    | _ => none

section

variable {sentinel : Text} {logic : Logic} {argument : Text} {clause : Clause}

theorem filterOutcome_ofFilter (sentinel : Text) (logic : Logic) (argument : Text) :
    FilterOutcome sentinel logic argument (Clause.ofFilter sentinel logic argument) := by
  cases hcut : Comparison.split? argument with
  | none =>
    rw [Clause.ofFilter, hcut]
    exact .unsigned (Comparison.split?_eq_none_iff.mp hcut)
  | some cut =>
    have leftmost := Comparison.split?_eq_some_iff.mp hcut
    obtain ⟨comparator, hentry⟩ := leftmost.exists_comparator
    rw [Clause.ofFilter_of_leftmostCut leftmost hentry]
    by_cases hblank : Blanks cut.left
    · rw [if_pos (List.isEmpty_iff.mpr (ColumnMention.key_eq_nil_iff.mpr hblank))]
      exact .keyless leftmost hblank
    · rw [if_neg (mt List.isEmpty_iff.mp (mt ColumnMention.key_eq_nil_iff.mp hblank))]
      exact .condition leftmost hblank hentry

/-- A filter line becomes what its argument tells, and nothing else. -/
theorem filterOutcome_iff :
    FilterOutcome sentinel logic argument clause ↔
      Clause.ofFilter sentinel logic argument = clause := by
  constructor
  · intro h
    cases h with
    | unsigned hnone => rw [Clause.ofFilter, Comparison.split?_eq_none_iff.mpr hnone]
    | keyless leftmost hblank =>
      obtain ⟨comparator, hentry⟩ := leftmost.exists_comparator
      rw [Clause.ofFilter_of_leftmostCut leftmost hentry]
      exact if_pos (List.isEmpty_iff.mpr (ColumnMention.key_eq_nil_iff.mpr hblank))
    | condition leftmost hblank hentry =>
      rw [Clause.ofFilter_of_leftmostCut leftmost hentry]
      exact if_neg (mt List.isEmpty_iff.mp (mt ColumnMention.key_eq_nil_iff.mp hblank))
  · rintro rfl
    exact filterOutcome_ofFilter sentinel logic argument

theorem filterOutcome_missingComparator_iff :
    FilterOutcome sentinel logic argument (.malformed argument .missingComparator) ↔
      ∀ token ∈ Comparator.spellings.map Prod.fst, ¬ token <:+: argument := by
  rw [filterOutcome_iff, Clause.ofFilter_eq_missingComparator_iff, Comparison.split?_eq_none_iff]

theorem filterOutcome_missingKey_iff :
    FilterOutcome sentinel logic argument (.malformed argument .missingKey) ↔
      ∃ cut, LeftmostCut argument cut ∧ Blanks cut.left := by
  constructor
  · rintro (_ | ⟨leftmost, hblank⟩)
    exact ⟨_, leftmost, hblank⟩
  · rintro ⟨cut, leftmost, hblank⟩
    exact .keyless leftmost hblank

end

theorem kind?_ofInstruction (settings : DirectiveSettings) (argument : Text)
    (instruction : Instruction) :
    (Clause.ofInstruction settings argument instruction).kind? =
      some (LineKind.ofInstruction instruction) := by
  cases instruction with
  | filter logic => exact kind?_ofFilter settings.sentinel logic argument
  | _ => rfl

/-- A line that gives an instruction says what that instruction makes of the argument. -/
theorem ofLine?_of_gives (settings : DirectiveSettings) {line argument : Text}
    {instruction : Instruction} (h : Gives line instruction argument) :
    Clause.ofLine? settings line = some (Clause.ofInstruction settings argument instruction) := by
  obtain ⟨name, hsays, hname⟩ := h
  rw [Clause.ofLine?, instructionText?_eq_some_iff.mpr hsays]
  simp only [Option.map_some, ofName?_of_mem_aliases hname]

section

variable {settings : DirectiveSettings} {line : Text} {clause : Clause}

/-- What a line says comes from an instruction, or its name is no spelling of one. -/
theorem ofLine?_cases (h : Clause.ofLine? settings line = some clause) :
    (∃ instruction argument, Gives line instruction argument ∧
        clause = Clause.ofInstruction settings argument instruction) ∨
      ∃ name argument, Says line name argument ∧ name ∉ Instruction.aliases.map Prod.fst ∧
        clause = .unknown name := by
  rw [Clause.ofLine?, Option.map_eq_some_iff] at h
  obtain ⟨⟨name, argument⟩, hsaid, hclause⟩ := h
  have hsays := instructionText?_eq_some_iff.mp hsaid
  obtain ⟨t, rfl⟩ := hsays.exists_lowercase
  cases hname : Instruction.ofName? (lowercase t) with
  | none =>
    simp only [hname] at hclause
    exact Or.inr ⟨_, argument, hsays, Instruction.ofName?_lowercase_eq_none_iff.mp hname,
      hclause.symm⟩
  | some instruction =>
    simp only [hname] at hclause
    exact Or.inl ⟨instruction, argument,
      ⟨_, hsays, Instruction.ofName?_lowercase_eq_some_iff.mp hname⟩, hclause.symm⟩

theorem ofLine?_eq_unknown_iff {name : Text} :
    Clause.ofLine? settings line = some (.unknown name) ↔
      ∃ argument, Says line name argument ∧ name ∉ Instruction.aliases.map Prod.fst := by
  constructor
  · intro h
    rcases ofLine?_cases h with ⟨instruction, argument, -, hclause⟩ |
      ⟨_, argument, hsays, hname, hclause⟩
    · have hkind := kind?_ofInstruction settings argument instruction
      rw [← hclause] at hkind
      exact absurd hkind (Option.some_ne_none _).symm
    · obtain rfl := Clause.unknown.inj hclause
      exact ⟨argument, hsays, hname⟩
  · rintro ⟨argument, hsays, hname⟩
    obtain ⟨t, rfl⟩ := hsays.exists_lowercase
    rw [Clause.ofLine?, instructionText?_eq_some_iff.mpr hsays]
    simp only [Option.map_some, Instruction.ofName?_lowercase_eq_none_iff.mpr hname]

/-- A malformed filter is reported of a filter line, with its own argument. -/
theorem ofLine?_eq_malformed_iff {argument : Text} {problem : FilterProblem} :
    Clause.ofLine? settings line = some (.malformed argument problem) ↔
      ∃ logic, Gives line (.filter logic) argument ∧
        FilterOutcome settings.sentinel logic argument (.malformed argument problem) := by
  constructor
  · intro h
    rcases ofLine?_cases h with ⟨instruction, argument', hgives, hclause⟩ | ⟨_, _, -, -, hclause⟩
    · have hkind := kind?_ofInstruction settings argument' instruction
      rw [← hclause] at hkind
      cases instruction with
      | filter logic =>
        have outcome := filterOutcome_iff.mpr hclause.symm
        obtain rfl : argument' = argument := by cases outcome <;> rfl
        exact ⟨logic, hgives, outcome⟩
      | _ => exact absurd (Option.some.inj hkind) (by decide)
    · exact Clause.noConfusion hclause
  · rintro ⟨logic, hgives, outcome⟩
    rw [ofLine?_of_gives settings hgives]
    exact congrArg some (filterOutcome_iff.mp outcome)

end

section

variable {α : Type} {f : Clause → Option α}

/-- What a line means to a reader of one kind of instruction alone. -/
theorem bind_ofLine? (settings : DirectiveSettings) (line : Text)
    (hunknown : ∀ name, f (.unknown name) = none) :
    (Clause.ofLine? settings line).bind f =
      (given? line).bind fun (instruction, argument) =>
        f (Clause.ofInstruction settings argument instruction) := by
  cases hgiven : given? line with
  | some given =>
    obtain ⟨instruction, argument⟩ := given
    rw [ofLine?_of_gives settings (given?_eq_some_iff.mp hgiven)]
    rfl
  | none =>
    cases hclause : Clause.ofLine? settings line with
    | none => rfl
    | some clause =>
      rcases ofLine?_cases hclause with ⟨instruction, argument, hgives, -⟩ | ⟨name, _, -, -, rfl⟩
      · rw [given?_eq_some_iff.mpr hgives] at hgiven
        exact absurd hgiven (Option.some_ne_none _)
      · exact hunknown name

/-- What is read of one kind of clause comes from the lines of that kind. -/
theorem filterMap_ofLine?_of_kind {g : Text → Option α} (kind : LineKind)
    (settings : DirectiveSettings) (lines : List Text)
    (hf : ∀ clause, f clause = if clause.kind? = some kind then f clause else none)
    (hg : ∀ line, g line = (given? line).bind fun (instruction, argument) =>
      if LineKind.ofInstruction instruction = kind then
        f (Clause.ofInstruction settings argument instruction)
      else none) :
    (lines.filterMap (Clause.ofLine? settings)).filterMap f = lines.filterMap g := by
  rw [List.filterMap_filterMap]
  refine List.filterMap_congr fun line _ => ?_
  rw [bind_ofLine? settings line fun name => hf (.unknown name), hg]
  refine congrArg (given? line).bind (funext fun (instruction, argument) => ?_)
  simpa only [kind?_ofInstruction, Option.some_inj] using
    hf (Clause.ofInstruction settings argument instruction)

/-- The filters and the reports on filters come from the filter lines, one from each. -/
theorem filterMap_ofLine?_conditions (settings : DirectiveSettings) (lines : List Text)
    (hf : ∀ clause, f clause = if clause.kind? = some .filter then f clause else none) :
    (lines.filterMap (Clause.ofLine? settings)).filterMap f =
      ((conditions lines).map fun (logic, argument) =>
        Clause.ofFilter settings.sentinel logic argument).filterMap f := by
  rw [conditions, List.map_filterMap]
  refine (filterMap_ofLine?_of_kind .filter settings lines hf fun line => ?_).trans
    List.filterMap_filterMap.symm
  rcases given? line with _ | ⟨instruction, argument⟩
  · rfl
  · cases instruction <;> rfl

/-- The declared labels are the pieces of the headers lines. -/
theorem filterMap_labels? (settings : DirectiveSettings) (lines : List Text) :
    (lines.filterMap (Clause.ofLine? settings)).filterMap (·.labels?) =
      (headerArguments lines).map fun argument => (pieces ',' argument).map trim := by
  rw [headerArguments, List.map_filterMap]
  refine filterMap_ofLine?_of_kind .headers settings lines
    (fun clause => by cases clause <;> rfl) fun line => ?_
  rcases given? line with _ | ⟨instruction, argument⟩
  · rfl
  · cases instruction <;> rfl

end

theorem line?_of_diagnostic? {line : Nat} {clause : Clause} {report : Diagnostic}
    (h : clause.diagnostic? line = some report) : report.line? = some line := by
  cases clause with
  | malformed argument problem =>
    obtain rfl := Option.some.inj h
    rfl
  | unknown name =>
    obtain rfl := Option.some.inj h
    rfl
  | _ => exact absurd h (Option.some_ne_none _).symm

/-- Reports on lines carry the numbers of their lines, in order. -/
theorem exists_numbers {numbered : List (Nat × Clause)}
    (h : numbered.Pairwise fun a b => a.1 < b.1) :
    ∃ numbers : List Nat,
      (numbered.filterMap fun (line, clause) => clause.diagnostic? line).map (·.line?) =
        numbers.map some ∧ numbers.Pairwise (· < ·) := by
  let numbers := numbered.filterMap fun (line, clause) =>
    (clause.diagnostic? line).map fun _ => line
  refine ⟨numbers, ?_, ?_⟩
  · rw [List.map_filterMap, List.map_filterMap]
    refine List.filterMap_congr fun (line, clause) _ => ?_
    cases hreport : clause.diagnostic? line with
    | none => simp only [hreport, Option.map_none]
    | some report => simp only [hreport, Option.map_some, line?_of_diagnostic? hreport]
  · rw [List.pairwise_filterMap]
    refine h.imp ?_
    intro a b hless m hm n hn
    obtain ⟨_, -, rfl⟩ := Option.map_eq_some_iff.mp hm
    obtain ⟨_, -, rfl⟩ := Option.map_eq_some_iff.mp hn
    exact hless

/-- Two clauses are not reported alike. -/
theorem diagnostic?_inj {m n : Nat} {a b : Clause} {report : Diagnostic}
    (ha : a.diagnostic? m = some report) (hb : b.diagnostic? n = some report) :
    (m, a) = (n, b) := by
  have hline : m = n := Option.some.inj <|
    (line?_of_diagnostic? ha).symm.trans (line?_of_diagnostic? hb)
  obtain rfl := hline
  cases a with
  | malformed argument problem =>
    obtain rfl := Option.some.inj ha
    cases b with
    | malformed argument' problem' => cases hb; rfl
    | unknown name => exact Diagnostic.noConfusion (Option.some.inj hb)
    | _ => exact absurd hb (Option.some_ne_none _).symm
  | unknown name =>
    obtain rfl := Option.some.inj ha
    cases b with
    | malformed argument' problem' => exact Diagnostic.noConfusion (Option.some.inj hb)
    | unknown name' => cases hb; rfl
    | _ => exact absurd hb (Option.some_ne_none _).symm
  | _ => exact absurd ha (Option.some_ne_none _).symm

section

variable (settings : DirectiveSettings) (classes : Text) (lines : List Text)

/-- The report on the headers, from the lines that declare them. -/
theorem diagnostics_read_eq :
    let declared := headerArguments lines
    let labels := (declared.flatMap (pieces ',')).length
    let columns := (read settings classes lines).spec.columns.length
    (read settings classes lines).diagnostics =
      (clauses settings 1 lines).filterMap (fun (line, clause) => clause.diagnostic? line) ++
        if declared ≠ [] ∧ labels ≠ columns then [.headerCount labels columns] else [] := by
  intro declared labels columns
  have hdeclared : ((clauses settings 1 lines).map Prod.snd).filterMap (·.labels?) =
      declared.map fun argument => (pieces ',' argument).map trim := by
    rw [map_snd_clauses, filterMap_labels?]
  have hlabels : (declared.map fun argument => (pieces ',' argument).map trim).flatten.length =
      labels := by
    simp [labels, List.length_flatten, Function.comp_def]
  have hreport := snd_headersFor settings (read settings classes lines).spec.columns
    (declared.map fun argument => (pieces ',' argument).map trim)
  simp only [hlabels, ne_eq, List.map_eq_nil_iff] at hreport
  rw [← hreport, ← hdeclared]
  rfl

theorem mem_diagnostics_iff {number : Nat} {clause : Clause} {report : Diagnostic}
    (hreport : clause.diagnostic? number = some report) :
    report ∈ (read settings classes lines).diagnostics ↔
      ∃ line, LineAt lines number line ∧ Clause.ofLine? settings line = some clause := by
  have hline := line?_of_diagnostic? hreport
  rw [diagnostics_read_eq, List.mem_append, ← mem_clauses_iff]
  constructor
  · rintro (hmem | hmem)
    · obtain ⟨⟨number', clause'⟩, hmem', hreport'⟩ := List.mem_filterMap.mp hmem
      rw [diagnostic?_inj hreport hreport']
      exact hmem'
    · split at hmem
      · rw [List.mem_singleton.mp hmem] at hline
        exact absurd hline (Option.some_ne_none _).symm
      · exact absurd hmem List.not_mem_nil
  · exact fun hmem => Or.inl (List.mem_filterMap.mpr ⟨_, hmem, hreport⟩)

end

namespace Clause

def malformed? : Clause → Option (Text × FilterProblem)
  | malformed argument problem => some (argument, problem)
  | _ => none

end Clause

/-- Each line of the directive has its effect or is reported, and nothing else is reported. -/
structure Accounted (settings : DirectiveSettings) (lines : List Text) (reading : Reading) :
    Prop where
  /-- At most one report on each line, in the order of the lines, and then one on the headers if
  any are declared and they are not as many as the columns. -/
  order :
    let declared := headerArguments lines
    let labels := (declared.flatMap (pieces ',')).length
    let columns := reading.spec.columns.length
    ∃ (reports : List Diagnostic) (numbers : List Nat),
      reading.diagnostics =
        (reports ++
          if declared ≠ [] ∧ labels ≠ columns then [.headerCount labels columns] else []) ∧
      reports.map (·.line?) = numbers.map some ∧ numbers.Pairwise (· < ·)
  unknown : ∀ number name, .unknownOption number name ∈ reading.diagnostics ↔
    ∃ line argument, LineAt lines number line ∧ Says line name argument ∧
      name ∉ Instruction.aliases.map Prod.fst
  unsigned : ∀ number argument,
    .malformedFilter number argument .missingComparator ∈ reading.diagnostics ↔
      ∃ line logic, LineAt lines number line ∧ Gives line (.filter logic) argument ∧
        ∀ token ∈ Comparator.spellings.map Prod.fst, ¬ token <:+: argument
  keyless : ∀ number argument,
    .malformedFilter number argument .missingKey ∈ reading.diagnostics ↔
      ∃ line logic cut, LineAt lines number line ∧ Gives line (.filter logic) argument ∧
        LeftmostCut argument cut ∧ Blanks cut.left
  /-- Each filter line is a condition of the table or is reported. -/
  filters : ∃ outcomes : List Clause,
    List.Forall₂ (fun (logic, argument) => FilterOutcome settings.sentinel logic argument)
      (conditions lines) outcomes ∧
    reading.spec.filters = outcomes.filterMap (·.filter?) ∧
    reading.diagnostics.filterMap (·.malformed?) = outcomes.filterMap (·.malformed?)
  total : reading.spec.filters.length + (reading.diagnostics.filterMap (·.malformed?)).length =
    (conditions lines).length

theorem filterMap_malformed? (settings : DirectiveSettings) (classes : Text) (lines : List Text) :
    (read settings classes lines).diagnostics.filterMap (·.malformed?) =
      (lines.filterMap (Clause.ofLine? settings)).filterMap (·.malformed?) := by
  have hheaders : ∀ (p : Prop) [Decidable p] (labels columns : Nat),
      (if p then [Diagnostic.headerCount labels columns] else []).filterMap (·.malformed?) =
        [] := by
    intro p _ labels columns
    split <;> rfl
  rw [diagnostics_read_eq, List.filterMap_append, hheaders, List.append_nil,
    List.filterMap_filterMap, ← map_snd_clauses settings 1, List.filterMap_map]
  refine List.filterMap_congr fun (line, clause) _ => ?_
  cases clause <;> rfl

/-- Every filter line is a condition or a report, and not both. -/
theorem length_outcomes {sentinel : Text} {given : List (Logic × Text)} {outcomes : List Clause}
    (h : List.Forall₂ (fun (logic, argument) => FilterOutcome sentinel logic argument)
      given outcomes) :
    (outcomes.filterMap (·.filter?)).length + (outcomes.filterMap (·.malformed?)).length =
      given.length := by
  induction h with
  | nil => rfl
  | cons outcome _ ih =>
    rw [List.length_cons, ← ih]
    cases outcome with
    | condition => simp [Clause.filter?, Clause.malformed?]; omega
    | _ => simp [Clause.filter?, Clause.malformed?]; omega

theorem every_line_is_accounted_for (settings : DirectiveSettings) (classes : Text)
    (lines : List Text) : Accounted settings lines (read settings classes lines) := by
  let outcomes := (conditions lines).map fun (logic, argument) =>
    Clause.ofFilter settings.sentinel logic argument
  have houtcomes : List.Forall₂
      (fun (logic, argument) => FilterOutcome settings.sentinel logic argument)
      (conditions lines) outcomes := by
    rw [List.forall₂_map_right_iff]
    exact List.forall₂_same.mpr fun (logic, argument) _ =>
      filterOutcome_ofFilter settings.sentinel logic argument
  have hfilters : (read settings classes lines).spec.filters = outcomes.filterMap (·.filter?) := by
    rw [spec_read rfl]
    exact filterMap_ofLine?_conditions settings lines fun clause => by cases clause <;> rfl
  have hmalformed : (read settings classes lines).diagnostics.filterMap (·.malformed?) =
      outcomes.filterMap (·.malformed?) := by
    rw [filterMap_malformed?]
    exact filterMap_ofLine?_conditions settings lines fun clause => by cases clause <;> rfl
  constructor
  case order =>
    obtain ⟨numbers, hnumbers, hascending⟩ := exists_numbers (pairwise_clauses settings 1 lines)
    exact ⟨_, numbers, diagnostics_read_eq settings classes lines, hnumbers, hascending⟩
  case unknown =>
    intro number name
    have hreport : (Clause.unknown name).diagnostic? number =
      some (.unknownOption number name) := rfl
    simp only [mem_diagnostics_iff settings classes lines hreport, ofLine?_eq_unknown_iff,
      exists_and_left]
  case unsigned =>
    intro number argument
    have hreport : (Clause.malformed argument .missingComparator).diagnostic? number =
      some (.malformedFilter number argument .missingComparator) := rfl
    simp only [mem_diagnostics_iff settings classes lines hreport, ofLine?_eq_malformed_iff,
      filterOutcome_missingComparator_iff, exists_and_left]
  case keyless =>
    intro number argument
    have hreport : (Clause.malformed argument .missingKey).diagnostic? number =
      some (.malformedFilter number argument .missingKey) := rfl
    simp only [mem_diagnostics_iff settings classes lines hreport, ofLine?_eq_malformed_iff,
      filterOutcome_missingKey_iff, exists_and_left]
  case filters => exact ⟨outcomes, houtcomes, hfilters, hmalformed⟩
  case total => rw [hfilters, hmalformed, length_outcomes houtcomes]

end Directive

end WikiPivot
