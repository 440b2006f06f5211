import WikiPivot.Command.Run
import WikiPivot.Proofs.Directive.Clauses
import WikiPivot.Proofs.Directive.Reading
import WikiPivot.Proofs.Document.Scan

/-! # Directives put into documents

A directive stands in a document between an opening line and a rule of dashes, and each line may
have a carriage return in its line end. The search finds the lines as they were put there, and they
are read like those of a file that holds nothing else.
-/
namespace WikiPivot

open Text

inductive LineEnd where
  | lf
  | crlf
  deriving DecidableEq, Repr

namespace LineEnd

def front : LineEnd → Text
  | lf => []
  | crlf => ['\r']

def text (lineEnd : LineEnd) : Text := lineEnd.front ++ ['\n']

end LineEnd

structure BodyLine where
  text : Text
  lineEnd : LineEnd
  whole : '\n' ∉ text
  bare : text.getLast? ≠ some '\r'

namespace BodyLine

def front (line : BodyLine) : Text := line.text ++ line.lineEnd.front

def IsRule (line : BodyLine) : Prop := List.replicate 4 '-' <+: line.text

end BodyLine

def ended (lines : List BodyLine) : Text := lines.flatMap fun line => line.front ++ ['\n']

/-- A directive with the dashes, the class names and the line ends around it. Only its first line
may look like a rule, for that one stands directly under the opening line. -/
structure Embedding where
  dashes : Nat
  spaces : Nat
  classes : Option Text
  closing : Nat
  lineEnd : LineEnd
  first : BodyLine
  rest : List BodyLine
  rule : Nat
  dashed : 4 ≤ dashes
  lettered : ∀ names ∈ classes, ∀ c ∈ names, Block.ClassLetter c
  closed : 1 ≤ closing
  unruled : ∀ line ∈ rest, ¬ line.IsRule
  ruled : 4 ≤ rule

namespace Embedding

variable (e : Embedding)

def suffix : Text := (e.classes.map (' ' :: ·)).getD []

def opener : Text :=
  List.replicate e.dashes '-' ++ (List.replicate e.spaces ' ' ++
    ("datatable".toList ++ (e.suffix ++ (List.replicate e.closing '-' ++ e.lineEnd.text))))

def lines : List BodyLine := e.first :: e.rest

def body : Text := ended e.lines

def document : Text := e.opener ++ (e.body ++ List.replicate e.rule '-')

end Embedding

def unended : BodyLine → List BodyLine → Text
  | line, [] => line.front
  | line, next :: rest => line.front ++ '\n' :: unended next rest

theorem LineEnd.newline_not_mem_front (lineEnd : LineEnd) : '\n' ∉ lineEnd.front := by
  cases lineEnd <;> decide

theorem BodyLine.newline_not_mem_front (line : BodyLine) : '\n' ∉ line.front := by
  rw [BodyLine.front, List.mem_append, not_or]
  exact ⟨line.whole, line.lineEnd.newline_not_mem_front⟩

theorem ended_cons (line : BodyLine) (lines : List BodyLine) :
    ended (line :: lines) = line.front ++ '\n' :: ended lines := by
  simp [ended]

theorem unended_append (line : BodyLine) (lines : List BodyLine) :
    unended line lines ++ ['\n'] = ended (line :: lines) := by
  induction lines generalizing line with
  | nil => simp [unended, ended]
  | cons next lines ih =>
    rw [unended, List.append_assoc, List.cons_append, ih, ended_cons line]

namespace Block

theorem closing?_append {t : Text} (h : '\n' ∉ t) (rest : Text) :
    closing? (t ++ rest) = (closing? rest).map fun (body, after) => (t ++ body, after) := by
  induction t with
  | nil => simp
  | cons c t ih =>
    obtain ⟨hc, ht⟩ := not_or.mp (mt List.mem_cons.mpr h)
    rw [List.cons_append, closing?_cons_of_no_rule fun heq => absurd heq.symm hc, ih ht]
    simp [Option.map_map, Function.comp_def]

/-- No rule stands where another line does. -/
theorem not_rule_of_ended {line : BodyLine} (h : ¬ line.IsRule) (lines : List BodyLine)
    (rest : Text) : ¬ List.replicate 4 '-' <+: ended (line :: lines) ++ rest := by
  have hsplit : ∃ c more, ended (line :: lines) ++ rest = line.text ++ c :: more ∧
      c ∉ List.replicate 4 '-' := by
    rw [ended_cons, BodyLine.front]
    cases line.lineEnd with
    | lf => exact ⟨'\n', ended lines ++ rest, by simp [LineEnd.front], by decide⟩
    | crlf => exact ⟨'\r', '\n' :: (ended lines ++ rest), by simp [LineEnd.front], by decide⟩
  obtain ⟨c, more, hended, hc⟩ := hsplit
  intro hrule
  rw [hended] at hrule
  exact h (prefix_of_prefix_append_cons hc hrule)

/-- The body ends before the newline of its last line. -/
theorem closing?_ended {rule after : Text} (hrule : afterDashes? 4 rule = some after)
    (line : BodyLine) {lines : List BodyLine} (unruled : ∀ line ∈ lines, ¬ line.IsRule) :
    closing? (ended (line :: lines) ++ rule) = some (unended line lines, after) := by
  induction lines generalizing line with
  | nil =>
    rw [ended_cons, List.append_assoc, closing?_append line.newline_not_mem_front]
    simp only [ended, List.flatMap_nil, List.cons_append, List.nil_append]
    rw [closing?_cons_of_rule hrule]
    simp [unended]
  | cons next lines ih =>
    -- the newline between two lines ends no body, for what follows it is no rule
    obtain ⟨hnext, hlater⟩ := List.forall_mem_cons.mp unruled
    have hnone := not_rule_of_ended hnext lines rule
    rw [ended_cons, List.append_assoc, closing?_append line.newline_not_mem_front,
      List.cons_append, closing?_cons_of_no_rule fun _ => hnone, ih next hlater]
    rfl

end Block

namespace BodyLine

theorem dropFinal_text (line : BodyLine) : dropFinal '\r' line.text = line.text :=
  if_neg line.bare

theorem dropFinal_front (line : BodyLine) : dropFinal '\r' line.front = line.text := by
  rw [front]
  cases line.lineEnd with
  | lf => simpa [LineEnd.front] using line.dropFinal_text
  | crlf => simp [LineEnd.front, dropFinal]

end BodyLine

theorem Text.dropFinal_append_cons {mark c : Char} (hc : c ≠ mark) (s t : Text) :
    dropFinal mark (s ++ c :: t) = s ++ c :: dropFinal mark t := by
  cases t with
  | nil => simp [dropFinal, hc]
  | cons d t =>
    have hlast : (s ++ c :: d :: t).getLast? = (d :: t).getLast? := by
      simp [List.getLast?_cons]
    have hfront : (s ++ c :: d :: t).dropLast = s ++ c :: (d :: t).dropLast := by simp
    rw [dropFinal, dropFinal, hlast, hfront]
    split <;> rfl

/-- The text between the two line ends around it has one piece for each line, the last of them
without a carriage return. -/
theorem pieces_unended (line : BodyLine) (lines : List BodyLine) :
    ∃ before, ∃ last : BodyLine,
      pieces '\n' (dropFinal '\r' (unended line lines)) = before ++ [last.text] ∧
        (line :: lines).map (·.text) = before.map (dropFinal '\r') ++ [last.text] := by
  induction lines generalizing line with
  | nil =>
    refine ⟨[], line, ?_, rfl⟩
    rw [unended, line.dropFinal_front]
    exact pieces_of_not_mem line.whole
  | cons next lines ih =>
    obtain ⟨before, last, hpieces, htexts⟩ := ih next
    refine ⟨line.front :: before, last, ?_, ?_⟩
    · rw [unended, dropFinal_append_cons (by decide),
        pieces_append_cons line.newline_not_mem_front, hpieces, List.cons_append]
    · rw [List.map_cons, htexts, List.map_cons, line.dropFinal_front, List.cons_append]

theorem bodyLines_unended (line : BodyLine) (lines : List BodyLine) :
    Block.bodyLines (unended line lines) = (line :: lines).map (·.text) := by
  obtain ⟨before, last, hpieces, htexts⟩ := pieces_unended line lines
  rw [Block.bodyLines, hpieces, htexts, List.map_append, List.map_singleton, last.dropFinal_text]

/-- An editor does not count an empty line that has no line end. -/
theorem lines_unended (line : BodyLine) (lines : List BodyLine) :
    let counted := Text.lines (dropFinal '\r' (unended line lines))
    counted = (line :: lines).map (·.text) ∨ counted ++ [[]] = (line :: lines).map (·.text) := by
  obtain ⟨before, last, hpieces, htexts⟩ := pieces_unended line lines
  rw [Text.lines, hpieces, htexts]
  cases hlast : last.text with
  | nil => simp
  | cons c rest => simp

theorem pieces_ended (lines : List BodyLine) :
    pieces '\n' (ended lines) = lines.map (·.front) ++ [[]] := by
  induction lines with
  | nil => rfl
  | cons line lines ih =>
    rw [ended_cons, pieces_append_cons line.newline_not_mem_front, ih, List.map_cons,
      List.cons_append]

theorem lines_ended (lines : List BodyLine) :
    Text.lines (ended lines) = lines.map (·.text) := by
  have htexts : (lines.map (·.front)).map (dropFinal '\r') = lines.map (·.text) := by
    rw [List.map_map]
    exact List.map_congr_left fun line _ => line.dropFinal_front
  simp [Text.lines, pieces_ended, ← htexts]

/-- An empty line says nothing. -/
theorem Directive.clauses_append_empty (settings : DirectiveSettings) (first : Nat)
    (lines : List Text) :
    clauses settings first (lines ++ [[]]) = clauses settings first lines := by
  rw [clauses_append]
  exact List.append_nil _

theorem Directive.read_append_empty (settings : DirectiveSettings) (classes : Text)
    (lines : List Text) :
    read settings classes (lines ++ [[]]) = read settings classes lines := by
  simp only [read, clauses_append_empty]

theorem Directive.read_trim (settings : DirectiveSettings) (classes : Text) (lines : List Text) :
    read settings (trim classes) lines = read settings classes lines := by
  simp only [read, trim_trim]

namespace Embedding

variable (e : Embedding)

def names : Text := e.classes.getD []

theorem trim_suffix : trim e.suffix = trim e.names := by
  rw [suffix, names]
  cases e.classes with
  | none => rfl
  | some names => exact trim_cons_of_isBlank (by decide) names

theorem classSuffix : Block.ClassSuffix e.suffix := by
  rw [suffix]
  cases hclasses : e.classes with
  | none => exact Or.inl rfl
  | some names => exact Or.inr ⟨names, rfl, e.lettered names hclasses⟩

theorem opening?_document :
    Block.opening? e.document = some (e.suffix, e.body ++ List.replicate e.rule '-') := by
  have hend : e.lineEnd.text ∈ [['\n'], ['\r', '\n']] := by
    cases e.lineEnd <;> decide
  exact Block.opening?_eq_some_iff.mpr ⟨e.opener,
    .mk e.dashes e.spaces e.closing e.lineEnd.text e.dashed e.classSuffix e.closed hend, rfl⟩

def block : Block where
  classes := trim e.names
  lines := e.lines.map (·.text)
  start := 0
  stop := octets e.document

theorem find_document : Block.find e.document = [e.block] := by
  have hrule : Block.afterDashes? 4 (List.replicate e.rule '-') = some [] :=
    Block.afterDashes?_eq_some_iff.mpr ⟨e.rule, e.ruled, by simp, by simp⟩
  have hclosing : Block.closing? (e.body ++ List.replicate e.rule '-') =
      some (unended e.first e.rest, []) := Block.closing?_ended hrule e.first e.unruled
  have hlines : Block.bodyLines (unended e.first e.rest) = e.lines.map (·.text) :=
    bodyLines_unended e.first e.rest
  have hhere : Block.here? 0 e.document = some (e.block, []) := by
    simp only [Block.here?, Option.bind_eq_bind, e.opening?_document, Option.bind_some, hclosing,
      hlines, e.trim_suffix, Option.pure_def, octets, Nat.sub_zero, Nat.zero_add]
    rfl
  rw [Block.find, Block.scan_of_some hhere]
  rfl

/-- The body as the pattern captures it, without the line end before the rule. -/
def between : Text := dropFinal '\r' (unended e.first e.rest)

theorem exists_between_append : ∃ lineEnd : LineEnd, e.between ++ lineEnd.text = e.body := by
  rw [body, lines, ← unended_append, between, dropFinal]
  split
  · rename_i hlast
    refine ⟨.crlf, ?_⟩
    have hend : LineEnd.crlf.text = ['\r'] ++ ['\n'] := rfl
    rw [hend, ← List.append_assoc, List.dropLast_append_getLast? _ hlast]
  · exact ⟨.lf, rfl⟩

theorem readBlock_block (settings : Settings) :
    settings.readBlock e.block = settings.read e.names (e.lines.map (·.text)) :=
  Directive.read_trim settings.directive e.names _

theorem read_between (settings : Settings) :
    settings.read e.names (Text.lines e.between) =
      settings.read e.names (e.lines.map (·.text)) := by
  rcases lines_unended e.first e.rest with hsame | hempty
  · rw [between, hsame, lines]
  · rw [lines, ← hempty, between]
    exact (Directive.read_append_empty settings.directive e.names _).symm

end Embedding

/-- A directive put into a document is the one block of it, with its class names, its lines and the
whole of the document. It is read as its lines are when they make up a file of their own, with the
last line end or without it. So a command does the same with either file, save that the class names
come from the document. -/
theorem embedded_directive_is_recovered (settings : Settings) (e : Embedding) :
    Block.find e.document = [e.block] ∧
      settings.readBlock e.block = settings.read e.names (Text.lines e.body) ∧
      (∃ lineEnd : LineEnd, e.between ++ lineEnd.text = e.body) ∧
      settings.readBlock e.block = settings.read e.names (Text.lines e.between) ∧
      ∀ (files : Command.Files) (file bodyFile : Text) (next : TableSpec → Command.Outcome),
        files.readText file = .ok e.document → files.readText bodyFile = .ok e.body →
        Command.withSpec settings files file false next =
          Command.withSpec settings files bodyFile true
            fun spec => next { spec with classes := trim e.names } := by
  have hblock : settings.readBlock e.block = settings.read e.names (e.lines.map (·.text)) :=
    e.readBlock_block settings
  have hbody : Text.lines e.body = e.lines.map (·.text) := lines_ended e.lines
  have hread : settings.readBlock e.block = settings.read e.names (Text.lines e.body) := by
    rw [hblock, hbody]
  refine ⟨e.find_document, hread, e.exists_between_append, ?_, ?_⟩
  · rw [hblock, e.read_between]
  · intro files file bodyFile next hdocument hlines
    simp only [Command.withSpec, hdocument, hlines, e.find_document, List.head?_cons,
      Option.map_some, Bool.false_eq_true, if_false, if_true, hread]
    rfl

def mixedEmbedding : Embedding where
  dashes := 4
  spaces := 1
  classes := some "wiki ".toList
  closing := 3
  lineEnd := .crlf
  first := ⟨"---- datatable ----".toList, .lf, by decide, by decide⟩
  rest := [⟨[], .crlf, by decide, by decide⟩, ⟨"cols: a".toList, .crlf, by decide, by decide⟩,
    ⟨[], .lf, by decide, by decide⟩]
  rule := 5
  dashed := by decide
  lettered := by
    rintro names ⟨⟩ c hc
    have hall : "wiki ".toList.all Block.isClassChar = true := by decide
    exact Block.isClassChar_iff.mp (List.all_eq_true.mp hall c hc)
  closed := by decide
  unruled := by simp [BodyLine.IsRule]
  ruled := by decide

theorem mixedEmbedding_is_recovered :
    let lines := ["---- datatable ----".toList, [], "cols: a".toList, []]
    let body := "---- datatable ----\n\r\ncols: a\r\n\n".toList
    let document := "---- datatable wiki ---\r\n".toList ++ body ++ "-----".toList
    let block : Block := ⟨"wiki".toList, lines, 0, 62⟩
    Block.find document = [block] ∧
      ({} : Settings).readBlock block =
        ({} : Settings).read "wiki ".toList (Text.lines body) := by
  intro lines body document block
  have hdocument : mixedEmbedding.document = document := by decide +kernel
  have hbody : mixedEmbedding.body = body := by decide +kernel
  have hnames : mixedEmbedding.names = "wiki ".toList := rfl
  have hblock : mixedEmbedding.block = block := by decide +kernel
  obtain ⟨hfind, hread, -⟩ := embedded_directive_is_recovered {} mixedEmbedding
  rw [hdocument, hblock] at hfind
  rw [hblock, hbody, hnames] at hread
  exact ⟨hfind, hread⟩

end WikiPivot
