import WikiPivot.Html.Markup

/-! # Reading markup

A reader takes markup character by character and keeps the elements that are still open. An opening
angle bracket begins a tag, double quotes enclose the value of an attribute, and a closing tag has
to name the innermost open element. References to characters stay as they are written.
-/
namespace WikiPivot.Html

structure Tag where
  name : Text
  attributes : List HtmlAttribute
  deriving DecidableEq, Repr

inductive Node where
  | char (c : Char)
  | element (tag : Tag) (content : List Node)

structure Frame where
  tag : Tag
  before : List Node

inductive Standing where
  | content
  | opened
  | closingName (name : Text)
  | openingName (name : Text)
  | attributeName (tag : Tag) (name : Text)
  | equals (tag : Tag) (name : Text)
  | value (tag : Tag) (name value : Text)
  | closedValue (tag : Tag)
  deriving DecidableEq, Repr

/-- `frames` are the open elements, the innermost first, and `nodes` what it holds so far. -/
structure Reader where
  standing : Standing
  frames : List Frame
  nodes : List Node

namespace Reader

def stand (reader : Reader) (standing : Standing) : Reader := { reader with standing }

def enter (reader : Reader) (tag : Tag) : Reader :=
  ⟨.content, ⟨tag, reader.nodes⟩ :: reader.frames, []⟩

def leave? (reader : Reader) (name : Text) : Option Reader :=
  match reader.frames with
  | [] => none
  | frame :: frames =>
    if frame.tag.name = name then
      some ⟨.content, frames, frame.before ++ [.element frame.tag reader.nodes]⟩
    else none

def step (reader : Reader) (c : Char) : Option Reader :=
  match reader.standing with
  | .content =>
    if c = '<' then some (reader.stand .opened)
    else some { reader with nodes := reader.nodes ++ [.char c] }
  | .opened =>
    if c = '/' then some (reader.stand (.closingName []))
    else if c.isLower then some (reader.stand (.openingName [c])) else none
  | .closingName name =>
    if c.isLower then some (reader.stand (.closingName (name ++ [c])))
    else if c = '>' then reader.leave? name else none
  | .openingName name =>
    if c.isLower then some (reader.stand (.openingName (name ++ [c])))
    else if c = ' ' then some (reader.stand (.attributeName ⟨name, []⟩ []))
    else if c = '>' then some (reader.enter ⟨name, []⟩) else none
  | .attributeName tag name =>
    if c.isLower then some (reader.stand (.attributeName tag (name ++ [c])))
    else if c = '=' then some (reader.stand (.equals tag name)) else none
  | .equals tag name => if c = '"' then some (reader.stand (.value tag name [])) else none
  | .value tag name value =>
    if c = '"' then
      some (reader.stand
        (.closedValue { tag with attributes := tag.attributes ++ [⟨name, value⟩] }))
    else some (reader.stand (.value tag name (value ++ [c])))
  | .closedValue tag =>
    if c = ' ' then some (reader.stand (.attributeName tag []))
    else if c = '>' then some (reader.enter tag) else none

def run (reader : Reader) (t : Text) : Option Reader := t.foldlM step reader

end Reader

def parse (t : Text) : Option (List Node) :=
  match Reader.run ⟨.content, [], []⟩ t with
  | some ⟨.content, [], nodes⟩ => some nodes
  | _ => none

def unescape : Text → Text
  | '&' :: 'a' :: 'm' :: 'p' :: ';' :: rest => '&' :: unescape rest
  | '&' :: 'l' :: 't' :: ';' :: rest => '<' :: unescape rest
  | '&' :: 'g' :: 't' :: ';' :: rest => '>' :: unescape rest
  | '&' :: 'q' :: 'u' :: 'o' :: 't' :: ';' :: rest => '"' :: unescape rest
  | '&' :: '#' :: '3' :: '9' :: ';' :: rest => '\'' :: unescape rest
  | c :: rest => c :: unescape rest
  | [] => []

theorem unescape_escape (t : Text) : unescape (escape t) = t := by
  induction t with
  | nil => rfl
  | cons c rest ih =>
    have hescape : escape (c :: rest) = (entity? c).getD [c] ++ escape rest := rfl
    rw [hescape]
    unfold entity?
    split
    all_goals simp_all [unescape]

def Word (name : Text) : Prop := ∀ c ∈ name, c.isLower = true

def HtmlAttribute.written (attr : HtmlAttribute) : HtmlAttribute :=
  { attr with value := escape attr.value }

theorem special_not_mem_escape {c : Char} (hc : c ∈ ['<', '>', '"']) (t : Text) : c ∉ escape t := by
  intro h
  obtain ⟨d, _, hd⟩ := List.mem_flatMap.mp h
  unfold entity? at hd
  split at hd
  all_goals simp_all
  all_goals
    rcases hc with rfl | rfl | rfl <;> simp_all

namespace Reader

theorem run_append {reader reader' : Reader} {s : Text} (h : reader.run s = some reader')
    (t : Text) : reader.run (s ++ t) = reader'.run t := by
  unfold run at h ⊢
  rw [List.foldlM_append, h]
  rfl

theorem run_cons {reader reader' : Reader} {c : Char} (h : reader.step c = some reader')
    (t : Text) : reader.run (c :: t) = reader'.run t := by
  unfold run
  rw [List.foldlM_cons, h]
  rfl

/-- Characters that a standing takes up one by one. -/
theorem run_taken (reader : Reader) (taking : Text → Standing) {p : Char → Prop}
    (htake : ∀ taken c, p c →
      (reader.stand (taking taken)).step c = some (reader.stand (taking (taken ++ [c]))))
    {t : Text} (ht : ∀ c ∈ t, p c) (taken : Text) :
    (reader.stand (taking taken)).run t = some (reader.stand (taking (taken ++ t))) := by
  induction t generalizing taken with
  | nil =>
    rw [List.append_nil]
    rfl
  | cons c t ih =>
    have hc := htake taken c (ht c List.mem_cons_self)
    rw [run_cons hc, ih (fun d hd => ht d (List.mem_cons_of_mem _ hd)), List.append_assoc]
    rfl

theorem run_attribute {reader : Reader} {standing : Standing} {tag : Tag}
    (hspace : (reader.stand standing).step ' ' = some (reader.stand (.attributeName tag [])))
    {attr : HtmlAttribute} (hname : Word attr.name) :
    (reader.stand standing).run attr.print =
      some (reader.stand (.closedValue
        { tag with attributes := tag.attributes ++ [attr.written] })) := by
  obtain ⟨name, value⟩ := attr
  have hletters := run_taken reader (.attributeName tag)
    (fun taken c (hc : c.isLower = true) => by simp [step, stand, hc]) hname []
  have hvalue := run_taken reader (.value tag name)
    (fun taken c (hc : c ≠ '"') => by simp [step, stand, hc])
    (fun c hc e => special_not_mem_escape (by simp) value (e ▸ hc)) []
  have hequals : (reader.stand (.attributeName tag name)).step '=' =
      some (reader.stand (.equals tag name)) := by simp [step, stand]
  have hopen : (reader.stand (.equals tag name)).step '"' =
      some (reader.stand (.value tag name [])) := by simp [step, stand]
  have hclose : (reader.stand (.value tag name (escape value))).step '"' =
      some (reader.stand (.closedValue
        { tag with attributes := tag.attributes ++ [⟨name, escape value⟩] })) := by
    simp [step, stand]
  have hprint : HtmlAttribute.print ⟨name, value⟩ =
      ' ' :: (name ++ '=' :: '"' :: (escape value ++ ['"'])) := by
    simp [HtmlAttribute.print]
  rw [hprint, run_cons hspace, run_append hletters, List.nil_append, run_cons hequals,
    run_cons hopen, run_append hvalue, List.nil_append, run_cons hclose]
  rfl

/-- Attributes are read up to the end of the tag. -/
theorem run_attributes {reader : Reader} {standing : Standing} {tag : Tag}
    (hspace : (reader.stand standing).step ' ' = some (reader.stand (.attributeName tag [])))
    (hend : (reader.stand standing).step '>' = some (reader.enter tag))
    {attributes : List HtmlAttribute} (hnames : ∀ attr ∈ attributes, Word attr.name) :
    (reader.stand standing).run (attributes.flatMap HtmlAttribute.print ++ ['>']) =
      some (reader.enter
        { tag with attributes := tag.attributes ++ attributes.map HtmlAttribute.written }) := by
  induction attributes generalizing standing tag with
  | nil =>
    rw [List.flatMap_nil, List.nil_append, run_cons hend, List.map_nil, List.append_nil]
    rfl
  | cons attr rest ih =>
    have hattr := run_attribute hspace (hnames attr List.mem_cons_self)
    -- behind the value the tag goes on as behind its name
    let next : Tag := { tag with attributes := tag.attributes ++ [attr.written] }
    have hspace' : (reader.stand (.closedValue next)).step ' ' =
        some (reader.stand (.attributeName next [])) := by simp [step, stand]
    have hend' : (reader.stand (.closedValue next)).step '>' = some (reader.enter next) := by
      simp [step, stand, enter]
    have hrest := ih hspace' hend' fun other hother => hnames other (List.mem_cons_of_mem _ hother)
    rw [List.flatMap_cons, List.append_assoc, run_append hattr, hrest]
    simp [next]

theorem run_openTag (frames : List Frame) (before : List Node) {name : Text} (hname : Word name)
    (hne : name ≠ []) {attributes : List HtmlAttribute}
    (hnames : ∀ attr ∈ attributes, Word attr.name) :
    run ⟨.content, frames, before⟩ (openTag name attributes) =
      some ⟨.content, ⟨⟨name, attributes.map HtmlAttribute.written⟩, before⟩ :: frames, []⟩ := by
  obtain ⟨first, rest, rfl⟩ := List.exists_cons_of_ne_nil hne
  have hfirst : first.isLower = true := hname first List.mem_cons_self
  have hslash : first ≠ '/' := by
    rintro rfl
    exact absurd hfirst (by decide)
  have hletters := run_taken ⟨.content, frames, before⟩ .openingName
    (fun taken c (hc : c.isLower = true) => by simp [step, stand, hc])
    (fun c hc => hname c (List.mem_cons_of_mem _ hc)) [first]
  have hprint : openTag (first :: rest) attributes =
      '<' :: first :: (rest ++ (attributes.flatMap HtmlAttribute.print ++ ['>'])) := by
    simp [openTag]
  have hopened : step ⟨.content, frames, before⟩ '<' = some ⟨.opened, frames, before⟩ := by
    simp [step, stand]
  have hopening : step ⟨.opened, frames, before⟩ first =
      some (stand ⟨.content, frames, before⟩ (.openingName [first])) := by
    simp [step, stand, hslash, hfirst]
  have hspace : (stand ⟨.content, frames, before⟩ (.openingName (first :: rest))).step ' ' =
      some (stand ⟨.content, frames, before⟩ (.attributeName ⟨first :: rest, []⟩ [])) := by
    simp [step, stand]
  have hend : (stand ⟨.content, frames, before⟩ (.openingName (first :: rest))).step '>' =
      some (enter ⟨.content, frames, before⟩ ⟨first :: rest, []⟩) := by
    simp [step, stand, enter]
  rw [hprint, run_cons hopened, run_cons hopening, run_append hletters]
  exact run_attributes hspace hend hnames

theorem run_closeTag (frames : List Frame) (tag : Tag) (before nodes : List Node)
    (hname : Word tag.name) :
    run ⟨.content, ⟨tag, before⟩ :: frames, nodes⟩ (closeTag tag.name) =
      some ⟨.content, frames, before ++ [.element tag nodes]⟩ := by
  have hletters := run_taken ⟨.content, ⟨tag, before⟩ :: frames, nodes⟩ .closingName
    (fun taken c (hc : c.isLower = true) => by simp [step, stand, hc]) hname []
  have hprint : closeTag tag.name = '<' :: '/' :: (tag.name ++ ['>']) := by simp [closeTag]
  have hopened : step ⟨.content, ⟨tag, before⟩ :: frames, nodes⟩ '<' =
      some ⟨.opened, ⟨tag, before⟩ :: frames, nodes⟩ := by
    simp [step, stand]
  have hclosing : step ⟨.opened, ⟨tag, before⟩ :: frames, nodes⟩ '/' =
      some (stand ⟨.content, ⟨tag, before⟩ :: frames, nodes⟩ (.closingName [])) := by
    simp [step, stand]
  have hend : (stand ⟨.content, ⟨tag, before⟩ :: frames, nodes⟩ (.closingName tag.name)).step '>' =
      some ⟨.content, frames, before ++ [.element tag nodes]⟩ := by
    simp [step, stand, leave?]
  rw [hprint, run_cons hopened, run_cons hclosing, run_append hletters, List.nil_append,
    run_cons hend]
  rfl

end Reader

def Shows (t : Text) (nodes : List Node) : Prop :=
  ∀ frames before, Reader.run ⟨.content, frames, before⟩ t =
    some ⟨.content, frames, before ++ nodes⟩

theorem parse_of_shows {t : Text} {nodes : List Node} (h : Shows t nodes) :
    parse t = some nodes := by
  rw [parse, h [] []]
  rfl

theorem shows_nil : Shows [] [] := by
  intro frames before
  rw [List.append_nil]
  rfl

theorem Shows.append {s t : Text} {nodes nodes' : List Node} (hs : Shows s nodes)
    (ht : Shows t nodes') : Shows (s ++ t) (nodes ++ nodes') := by
  intro frames before
  rw [Reader.run_append (hs frames before), ht frames (before ++ nodes), List.append_assoc]

theorem shows_flatMap {α : Type} {print : α → Text} {nodes : α → List Node} {xs : List α}
    (h : ∀ x ∈ xs, Shows (print x) (nodes x)) : Shows (xs.flatMap print) (xs.flatMap nodes) := by
  induction xs with
  | nil => exact shows_nil
  | cons x rest ih =>
    exact (h x List.mem_cons_self).append (ih fun y hy => h y (List.mem_cons_of_mem _ hy))

theorem shows_chars {t : Text} (h : '<' ∉ t) : Shows t (t.map .char) := by
  intro frames before
  induction t generalizing before with
  | nil => exact shows_nil frames before
  | cons c t ih =>
    have hc : c ≠ '<' := fun e => h (e ▸ List.mem_cons_self)
    have hstep : Reader.step ⟨.content, frames, before⟩ c =
        some ⟨.content, frames, before ++ [.char c]⟩ := by
      simp [Reader.step, hc]
    rw [Reader.run_cons hstep, ih fun hmem => h (List.mem_cons_of_mem _ hmem)]
    simp

theorem shows_escape (t : Text) : Shows (escape t) ((escape t).map .char) :=
  shows_chars (special_not_mem_escape (by simp) t)

theorem Shows.enclosed {name : Text} (hname : Word name) (hne : name ≠ [])
    {attributes : List HtmlAttribute} (hnames : ∀ attr ∈ attributes, Word attr.name)
    {content : Text} {nodes : List Node} (h : Shows content nodes) :
    Shows (enclosed name attributes content)
      [.element ⟨name, attributes.map HtmlAttribute.written⟩ nodes] := by
  intro frames before
  rw [Html.enclosed, List.append_assoc,
    Reader.run_append (Reader.run_openTag frames before hname hne hnames),
    Reader.run_append (h _ _), List.nil_append]
  exact Reader.run_closeTag frames ⟨name, attributes.map HtmlAttribute.written⟩ before nodes hname

end WikiPivot.Html
