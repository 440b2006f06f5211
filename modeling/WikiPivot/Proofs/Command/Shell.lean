import WikiPivot.Command.Run
import WikiPivot.Proofs.Text.Lines
import Mathlib.Data.List.DropRight
import Mathlib.Data.List.Infix

/-! # A session, run by run

What a session does with a line depends on the lines before it only by the run that they leave
unanswered. For each run that a blank line ends it writes what the commands write for a file of
these lines, and beside that it writes prompts.
-/
namespace WikiPivot.Command

@[simp] theorem Output.out_append (first second : Output) :
    (first ++ second).out = first.out ++ second.out := rfl

theorem Output.append_empty (output : Output) : output ++ ({} : Output) = output :=
  congrArg₂ Output.mk (List.append_nil _) (List.append_nil _)

namespace Shell

def isBlank (line : Text) : Bool := (Text.trim line).isEmpty

/-- The maximal runs of lines that are not blank with a blank line after them. -/
def runs (lines : List Text) : List (List Text) :=
  (lines.splitOnP isBlank).dropLast.filter (!·.isEmpty)

def pending (lines : List Text) : List Text := lines.rtakeWhile (!isBlank ·)

@[simp] theorem pending_nil : pending [] = [] := rfl

theorem pending_concat (before : List Text) (line : Text) :
    pending (before ++ [line]) = if isBlank line then [] else pending before ++ [line] := by
  rw [pending, List.rtakeWhile_concat]
  cases isBlank line <;> rfl

theorem isBlank_of_mem_pending {lines : List Text} {line : Text} (h : line ∈ pending lines) :
    isBlank line = false := by
  simpa using List.mem_rtakeWhile_imp h

/-- What comes before the lines since the last blank one leaves nothing unanswered. -/
theorem exists_append_pending (lines : List Text) :
    ∃ before, lines = before ++ pending lines ∧ pending before = [] :=
  ⟨_, List.rdropWhile_append_rtakeWhile.symm,
    List.rtakeWhile_eq_nil_iff.mpr (List.rdropWhile_last_not _ _)⟩

theorem runs_append_blank (before : List Text) {blank : Text} (hblank : isBlank blank)
    (after : List Text) :
    runs (before ++ blank :: after) =
      (before.splitOnP isBlank).filter (!·.isEmpty) ++ runs after := by
  rw [runs, List.splitOnP_append_cons _ _ hblank,
    List.dropLast_append_of_ne_nil (List.splitOnP_ne_nil _ _), List.filter_append, ← runs]

theorem modifyHead_pending_nil (parts : List (List Text)) :
    parts.modifyHead (pending [] ++ ·) = parts := by
  cases parts <;> rfl

/-- Of the lines between blank ones the first go on with a run that is begun. -/
theorem exists_of_mem_dropLast_splitOnP {before lines run : List Text}
    (hrun : run ∈ ((lines.splitOnP isBlank).modifyHead (pending before ++ ·)).dropLast) :
    (∀ line ∈ run, isBlank line = false) ∧ ∃ front blank after,
      before ++ lines = front ++ run ++ blank :: after ∧ pending front = [] ∧ isBlank blank := by
  induction lines generalizing before with
  | nil => exact absurd hrun List.not_mem_nil
  | cons line rest ih =>
    obtain ⟨first, more, hsplit⟩ := List.exists_cons_of_ne_nil (List.splitOnP_ne_nil isBlank rest)
    have hstep := @ih (before ++ [line])
    rw [List.splitOnP_cons_eq_if_modifyHead] at hrun
    rw [pending_concat, hsplit, List.append_assoc, List.singleton_append] at hstep
    rw [hsplit] at hrun
    cases hblank : isBlank line with
    | false => exact hstep (by simpa [hblank] using hrun)
    | true =>
      simp only [hblank, if_true, List.modifyHead_cons, List.append_nil, List.dropLast_cons_cons,
        List.mem_cons] at hrun
      rcases hrun with rfl | hrun
      · obtain ⟨front, hfront, hnone⟩ := exists_append_pending before
        exact ⟨fun _ => isBlank_of_mem_pending, front, line, rest,
          congrArg (· ++ line :: rest) hfront, hnone, hblank⟩
      · exact hstep (by simpa [hblank] using hrun)

theorem mem_runs {lines run : List Text} :
    run ∈ runs lines ↔ run ≠ [] ∧ (∀ line ∈ run, isBlank line = false) ∧ ∃ before blank after,
      lines = before ++ run ++ blank :: after ∧ pending before = [] ∧ isBlank blank := by
  constructor
  · intro hrun
    obtain ⟨hmem, hne⟩ := List.mem_filter.mp hrun
    rw [← modifyHead_pending_nil (lines.splitOnP isBlank)] at hmem
    exact ⟨by simpa using hne, exists_of_mem_dropLast_splitOnP hmem⟩
  · rintro ⟨hne, hfull, before, blank, after, rfl, hbefore, hblank⟩
    have hrun : (run.splitOnP isBlank).filter (!·.isEmpty) = [run] := by
      rw [List.splitOnP_eq_singleton hfull]
      simpa using hne
    have hlast : run ∈ runs (run ++ blank :: after) := by
      rw [runs_append_blank run hblank, hrun]
      exact List.mem_cons_self
    rcases List.eq_nil_or_concat before with rfl | ⟨front, last, rfl⟩
    · exact hlast
    · rw [List.concat_eq_append, pending_concat] at hbefore
      have hends : isBlank last := by
        by_contra hlast
        simp [hlast] at hbefore
      rw [List.concat_eq_append, List.append_assoc, List.append_assoc, List.singleton_append,
        runs_append_blank front hends]
      exact List.mem_append_right _ hlast

theorem mem_lines_of_mem_runs {lines run : List Text} (hrun : run ∈ runs lines) {line : Text}
    (hline : line ∈ run) : line ∈ lines := by
  obtain ⟨-, -, before, blank, after, rfl, -⟩ := mem_runs.mp hrun
  exact List.mem_append_left _ (List.mem_append_right _ hline)

def prompts (read : List (List Text)) : List Text := read.map fun before => prompt (pending before)

/-- What is written for some lines, each of them after others: only a blank one ends a run. -/
def replies (shown : List Text → Text) (read : List (List Text)) (lines : List Text) : List Text :=
  List.zipWith (fun before line => if isBlank line then shown (pending before) else []) read lines

@[simp] theorem prompts_cons (before : List Text) (read : List (List Text)) :
    prompts (before :: read) = prompt (pending before) :: prompts read := rfl

@[simp] theorem replies_cons (shown : List Text → Text) (before : List Text)
    (read : List (List Text)) (line : Text) (rest : List Text) :
    replies shown (before :: read) (line :: rest) =
      (if isBlank line then shown (pending before) else []) :: replies shown read rest := rfl

theorem map_append_inits_cons (before : List Text) (line : Text) (rest : List Text) :
    (line :: rest).inits.map (before ++ ·) = before :: rest.inits.map (before ++ [line] ++ ·) := by
  simp

section

variable (settings : Settings) (storage : Option Storage)

/-- What one line does, with the run before it unanswered. -/
theorem session_cons (before : List Text) (line : Text) (rest : List Text) :
    session settings storage (pending before) (line :: rest) =
      ⟨prompt (pending before), []⟩ ++
        (if isBlank line then directive settings storage (pending before) else {}) ++
        session settings storage (pending (before ++ [line])) rest := by
  rw [session, pending_concat, ← isBlank]
  cases isBlank line
  · exact congrArg (· ++ _) (Output.append_empty _).symm
  · rfl

theorem out_session (before lines : List Text) :
    let read := lines.inits.map (before ++ ·)
    (session settings storage (pending before) lines).out =
      (List.zipWith (· ++ ·) (prompts read)
        (replies (fun run => (directive settings storage run).out) read lines ++
          [[]])).flatten := by
  intro read
  induction lines generalizing before with
  | nil => simp [read, session, prompts, replies]
  | cons line rest ih =>
    simp only [read, map_append_inits_cons, prompts_cons, replies_cons, List.cons_append,
      List.zipWith_cons_cons, List.flatten_cons, ← ih, session_cons, Output.out_append]
    cases isBlank line <;> rfl

end

theorem flatten_replies (shown : List Text → Text) (before lines : List Text) :
    (replies shown (lines.inits.map (before ++ ·)) lines).flatten =
      ((lines.splitOnP isBlank).modifyHead (pending before ++ ·)).dropLast.flatMap shown := by
  induction lines generalizing before with
  | nil => simp [replies]
  | cons line rest ih =>
    obtain ⟨first, more, hsplit⟩ := List.exists_cons_of_ne_nil (List.splitOnP_ne_nil isBlank rest)
    rw [map_append_inits_cons, replies_cons, List.flatten_cons, ih,
      List.splitOnP_cons_eq_if_modifyHead, pending_concat, hsplit]
    cases isBlank line <;> simp

theorem flatMap_runs {shown : List Text → Text} (hnone : shown [] = []) (lines : List Text) :
    (runs lines).flatMap shown = (replies shown lines.inits lines).flatten := by
  have hreplies := flatten_replies shown [] lines
  simp only [List.nil_append, List.map_id', modifyHead_pending_nil] at hreplies
  rw [hreplies, runs]
  -- what is left of the two sides differs by the empty parts, which show nothing
  generalize (lines.splitOnP isBlank).dropLast = all
  induction all with
  | nil => rfl
  | cons run all ih => cases run <;> simp [hnone, ih]

section

variable (settings : Settings)

/-- What a run leaves on the first output; a database that refuses the query adds nothing. -/
theorem out_directive (storage : Option Storage) {run : List Text} (hrun : run ≠ []) :
    (directive settings storage run).out =
      ((settings.query (settings.read [] run).spec none).sql settings.store ++ ['\n']) ++
        match storage with
        | none => []
        | some storage =>
          match answerJson settings storage (settings.read [] run).spec none with
          | .ok json => json ++ ['\n']
          | .error _ => [] := by
  rw [directive, if_neg (by simpa using hrun), Output.out_append, Output.out_append]
  cases storage with
  | none => rfl
  | some storage =>
    simp only [Option.map_some]
    cases answerJson settings storage (settings.read [] run).spec none <;> rfl

variable {files : Files} {file document : Text} (hfile : files.readText file = .ok document)

include hfile

theorem withSpec_body (next : TableSpec → Outcome) :
    let reading := settings.read [] (Text.lines document)
    withSpec settings files file true next = (next reading.spec).after (.diagnostics reading) := by
  simp only [withSpec, hfile, if_true]

theorem run_compile (input : Text) :
    let outcome := (Action.compile file none true).run settings files input
    let spec := (settings.read [] (Text.lines document)).spec
    outcome.code = 0 ∧
      outcome.output.out = (settings.query spec none).sql settings.store ++ ['\n'] := by
  simp only [Action.run, withSpec_body settings hfile]
  exact ⟨rfl, rfl⟩

theorem run_render {path : Text} {storage : Storage}
    (hstorage : files.openStorage path = .ok storage) (pageUrl input : Text) :
    let outcome := (Action.render file path none pageUrl .json true).run settings files input
    (if outcome.code = 0 then outcome.output.out else []) =
      match answerJson settings storage (settings.read [] (Text.lines document)).spec none with
      | .ok json => json ++ ['\n']
      | .error _ => [] := by
  simp only [Action.run, withSpec_body settings hfile, withStorage, hstorage, rendered]
  cases answerJson settings storage (settings.read [] (Text.lines document)).spec none <;> rfl

end

/-- `shown` gives for a run of lines what the commands write for a file of these lines, among
whatever files, with the same database. -/
structure AsCommands (settings : Settings) (files : Files) (database : Option Text)
    (shown : List Text → Text) : Prop where
  silent : shown [] = []
  answers : ∀ (among : Files) (file document pageUrl input : Text),
    among.readText file = .ok document → Text.lines document ≠ [] →
    (∀ path ∈ database, among.openStorage path = files.openStorage path) →
    let compiled := (Action.compile file none true).run settings among input
    let rendered := fun path =>
      (Action.render file path none pageUrl .json true).run settings among input
    compiled.code = 0 ∧ shown (Text.lines document) = compiled.output.out ++
      match database with
      | none => []
      | some path => if (rendered path).code = 0 then (rendered path).output.out else []

structure Answered (shown : List Text → Text) (lines : List Text) (outcome : Outcome) : Prop where
  code : outcome.code = 0
  out : outcome.output.out = banner ++ (List.zipWith (· ++ ·) (prompts lines.inits)
    (replies shown lines.inits lines ++ [[]])).flatten
  /-- Without the prompts that is what is written for the runs, one after the other. -/
  inTurn : (replies shown lines.inits lines).flatten = (runs lines).flatMap shown

theorem answered_run (settings : Settings) (storage : Option Storage) (lines : List Text)
    (opened : List Text) :
    Answered (fun run => (directive settings storage run).out) lines
      ⟨0, run settings storage lines, opened⟩ where
  code := rfl
  out := by
    have hsession := out_session settings storage [] lines
    simp only [List.nil_append, List.map_id'] at hsession
    exact congrArg (banner ++ ·) hsession
  inTurn := (flatMap_runs rfl lines).symm

theorem asCommands_none (settings : Settings) (files : Files) :
    AsCommands settings files none fun run => (directive settings none run).out where
  silent := rfl
  answers := by
    intro among file document pageUrl input hfile hlines _ compiled rendered
    obtain ⟨hcode, hout⟩ := run_compile settings hfile input
    exact ⟨hcode, by rw [out_directive settings none hlines, hout]⟩

theorem asCommands_some (settings : Settings) {files : Files} {path : Text} {storage : Storage}
    (hopen : files.openStorage path = .ok storage) :
    AsCommands settings files (some path)
      fun run => (directive settings (some storage) run).out where
  silent := rfl
  answers := by
    intro among file document pageUrl input hfile hlines hsame compiled rendered
    obtain ⟨hcode, hout⟩ := run_compile settings hfile input
    have hrendered := run_render settings hfile ((hsame path rfl).trans hopen) pageUrl input
    refine ⟨hcode, ?_⟩
    rw [out_directive settings (some storage) hlines, hout]
    exact congrArg (_ ++ ·) hrendered.symm

/-- The prompts apart, a session writes for each run of lines that a blank line ends what the
commands write for a file of these lines, and so whatever the other lines are. There is such a
file. -/
theorem runs_answered_as_by_commands (settings : Settings) (files : Files) (database : Option Text)
    (hopens : ∀ path ∈ database, ∃ storage, files.openStorage path = .ok storage) :
    ∃ shown, AsCommands settings files database shown ∧
      ∀ input,
        Answered shown (Text.lines input) ((Action.shell database).run settings files input) ∧
        ∀ run ∈ runs (Text.lines input), ∃ document, Text.lines document = run := by
  have hdocument : ∀ input, ∀ run ∈ runs (Text.lines input), ∃ document,
      Text.lines document = run := by
    intro input run hrun
    exact ⟨_, Text.lines_flatMap_ended fun line hline =>
      Text.newline_not_mem_of_mem_lines (mem_lines_of_mem_runs hrun hline)⟩
  cases database with
  | none =>
    exact ⟨_, asCommands_none settings files, fun input =>
      ⟨answered_run settings none (Text.lines input) [], hdocument input⟩⟩
  | some path =>
    obtain ⟨storage, hopen⟩ := hopens path rfl
    refine ⟨_, asCommands_some settings hopen, fun input => ⟨?_, hdocument input⟩⟩
    simp only [Action.run, withStorage, hopen]
    exact answered_run settings (some storage) (Text.lines input) [path]

def partialFiles : Files :=
  ⟨[("store.db".toList,
      .database ⟨{ attributeTable := "facts".toList }, ⟨[⟨1, "p".toList⟩], []⟩⟩),
    ("joined".toList, .text "cols: a".toList), ("plain".toList, .text "cols: %pageid%\n".toList)]⟩

/-- The first query is refused and the second is not. -/
theorem refused_query_leaves_the_next_run :
    (∀ path ∈ some "store.db".toList, ∃ storage, partialFiles.openStorage path = .ok storage) ∧
    runs (Text.lines "cols: a\n\n\ncols: %pageid%\n \ncols: b\n".toList) =
      [["cols: a".toList], ["cols: %pageid%".toList]] ∧
    ∃ shown, AsCommands {} partialFiles (some "store.db".toList) shown ∧
      (∀ input, Answered shown (Text.lines input)
          ((Action.shell (some "store.db".toList)).run {} partialFiles input) ∧
        ∀ run ∈ runs (Text.lines input), ∃ document, Text.lines document = run) ∧
      shown ["cols: a".toList] =
        ((Action.compile "joined".toList none true).run {} partialFiles []).output.out ∧
      shown ["cols: %pageid%".toList] =
        ((Action.compile "plain".toList none true).run {} partialFiles []).output.out ++
        ((Action.render "plain".toList "store.db".toList none [] .json true).run {} partialFiles
          []).output.out := by
  have hopens : ∀ path ∈ some "store.db".toList, ∃ storage,
      partialFiles.openStorage path = .ok storage := by
    intro path hpath
    obtain rfl := Option.some.inj hpath
    exact ⟨.tables ⟨{ attributeTable := "facts".toList }, ⟨[⟨1, "p".toList⟩], []⟩⟩,
      by decide +kernel⟩
  obtain ⟨shown, hshown, hanswered⟩ := runs_answered_as_by_commands {} partialFiles _ hopens
  have hjoined := (hshown.answers partialFiles "joined".toList "cols: a".toList [] []
    (by decide +kernel) (by decide +kernel) fun _ _ => rfl).2
  have hplain := (hshown.answers partialFiles "plain".toList "cols: %pageid%\n".toList [] []
    (by decide +kernel) (by decide +kernel) fun _ _ => rfl).2
  have hrefused : ((Action.render "joined".toList "store.db".toList none [] .json true).run {}
    partialFiles []).code ≠ 0 := by decide +kernel
  have hanswer : ((Action.render "plain".toList "store.db".toList none [] .json true).run {}
    partialFiles []).code = 0 := by decide +kernel
  simp only [if_neg hrefused, List.append_nil] at hjoined
  simp only [if_pos hanswer] at hplain
  exact ⟨hopens, by decide +kernel, shown, hshown, hanswered, hjoined, hplain⟩

/-- A session without a run still writes its prompts. -/
theorem prompts_belong_to_the_output :
    ¬ ∃ shown : List Text → Text, ((Action.shell none).run {} {} ['\n']).output.out =
      banner ++ (runs (Text.lines ['\n'])).flatMap shown := by
  rintro ⟨shown, hout⟩
  have hruns : runs (Text.lines ['\n']) = [] := by decide +kernel
  have hprompts : ((Action.shell none).run {} {} ['\n']).output.out =
      banner ++ "datatable> datatable> ".toList := by decide +kernel
  rw [hruns, hprompts, List.flatMap_nil, List.append_right_inj] at hout
  exact absurd hout (by decide)

end Shell

end WikiPivot.Command
