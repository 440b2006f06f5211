import WikiPivot.Text.Basic
import Mathlib.Data.List.TakeWhile

/-! # Expressions with preferences

From a place of a text an expression can go on in several ways, listed by preference: a greedy
repetition goes on before it stops, a lazy one stops before it goes on. The first way is the match.
-/
namespace WikiPivot

inductive Appetite where
  | greedy
  | lazy
  deriving DecidableEq, Repr

inductive Expression where
  | lineStart
  | one (accepts : Char → Bool)
  | many (appetite : Appetite) (accepts : Char → Bool)
  | optional (e : Expression)
  | group (e : Expression)
  | empty
  | seq (e f : Expression)

namespace Expression

/-- A place between what was read and what was not, and what the closed groups hold. -/
structure Progress where
  front : Text
  rest : Text
  groups : List Text
  deriving DecidableEq, Repr

def repeated (appetite : Appetite) (accepts : Char → Bool) (groups : List Text) :
    Text → Text → List Progress
  | front, [] => [⟨front, [], groups⟩]
  | front, c :: rest =>
    if accepts c then
      match appetite with
      | .greedy =>
        repeated appetite accepts groups (front ++ [c]) rest ++ [⟨front, c :: rest, groups⟩]
      | .lazy => ⟨front, c :: rest, groups⟩ :: repeated appetite accepts groups (front ++ [c]) rest
    else [⟨front, c :: rest, groups⟩]

def ways : Expression → Progress → List Progress
  | lineStart, p => if p.front = [] ∨ p.front.getLast? = some '\n' then [p] else []
  | one accepts, p =>
    match p.rest with
    | [] => []
    | c :: rest => if accepts c then [⟨p.front ++ [c], rest, p.groups⟩] else []
  | many appetite accepts, p => repeated appetite accepts p.groups p.front p.rest
  | optional e, p => ways e p ++ [p]
  | group e, p =>
    (ways e p).map fun q => { q with groups := q.groups ++ [q.front.drop p.front.length] }
  | empty, p => [p]
  | seq e f, p => (ways e p).flatMap (ways f)

def sequence (es : List Expression) : Expression := es.foldr seq empty

def word (t : Text) : List Expression := t.map fun c => one (· == c)

def atLeast (least : Nat) (accepts : Char → Bool) : List Expression :=
  List.replicate least (one accepts) ++ [many .greedy accepts]

structure Found where
  start : Nat
  stop : Nat
  groups : List Text
  deriving DecidableEq, Repr

/-- The matches from a place on, leftmost first, each search beginning where the last match ended.
An empty match is passed over. -/
def matchesFrom (e : Expression) (front rest : Text) : List Found :=
  match _h : (ways e ⟨front, rest, []⟩).head?.filter (·.rest.length < rest.length) with
  | some p => ⟨Text.octets front, Text.octets p.front, p.groups⟩ :: matchesFrom e p.front p.rest
  | none =>
    match rest with
    | [] => []
    | c :: rest => matchesFrom e (front ++ [c]) rest
  termination_by rest.length
  decreasing_by
    · simpa using (Option.filter_eq_some_iff.mp _h).2
    · simp

def matchesOf (e : Expression) (t : Text) : List Found := matchesFrom e [] t

@[simp] theorem ways_sequence_nil (p : Progress) : ways (sequence []) p = [p] := rfl

@[simp] theorem ways_sequence_cons (e : Expression) (es : List Expression) (p : Progress) :
    ways (sequence (e :: es)) p = (ways e p).flatMap (ways (sequence es)) := rfl

theorem ways_sequence_append (es fs : List Expression) (p : Progress) :
    ways (sequence (es ++ fs)) p = (ways (sequence es) p).flatMap (ways (sequence fs)) := by
  induction es generalizing p with
  | nil => simp
  | cons e es ih =>
    rw [List.cons_append, ways_sequence_cons, ways_sequence_cons, List.flatMap_assoc]
    congr 1
    funext q
    exact ih q

theorem ways_one (accepts : Char → Bool) (front rest : Text) (groups : List Text) (c : Char) :
    ways (one accepts) ⟨front, c :: rest, groups⟩ =
      if accepts c then [⟨front ++ [c], rest, groups⟩] else [] := rfl

section

variable {accepts : Char → Bool}

theorem exists_of_mem_one {p q : Progress} (h : q ∈ ways (one accepts) p) :
    ∃ c rest, p.rest = c :: rest ∧ accepts c = true ∧ q = ⟨p.front ++ [c], rest, p.groups⟩ := by
  obtain ⟨front, rest, groups⟩ := p
  cases rest with
  | nil => exact absurd h List.not_mem_nil
  | cons c rest =>
    rw [ways_one] at h
    split at h
    · exact ⟨c, rest, rfl, ‹_›, List.mem_singleton.mp h⟩
    · exact absurd h List.not_mem_nil

theorem mem_repeated_cons {appetite : Appetite} {groups : List Text} {front rest : Text} {c : Char}
    {q : Progress} : q ∈ repeated appetite accepts groups front (c :: rest) ↔
      q = ⟨front, c :: rest, groups⟩ ∨
        accepts c = true ∧ q ∈ repeated appetite accepts groups (front ++ [c]) rest := by
  by_cases hc : accepts c = true
  · cases appetite <;> simp [repeated, hc, or_comm]
  · simp [repeated, hc]

theorem exists_of_mem_repeated {appetite : Appetite} {groups : List Text} {front rest : Text}
    {q : Progress} (h : q ∈ repeated appetite accepts groups front rest) :
    ∃ run rest', rest = run ++ rest' ∧ (∀ c ∈ run, accepts c = true) ∧
      q = ⟨front ++ run, rest', groups⟩ := by
  induction rest generalizing front with
  | nil => exact ⟨[], [], rfl, by simp, by simpa [repeated] using h⟩
  | cons c rest ih =>
    rcases mem_repeated_cons.mp h with rfl | ⟨hc, h⟩
    · exact ⟨[], c :: rest, rfl, by simp, by simp⟩
    · obtain ⟨run, rest', rfl, hrun, rfl⟩ := ih h
      exact ⟨c :: run, rest', rfl, List.forall_mem_cons.mpr ⟨hc, hrun⟩, by simp⟩

/-- Where what follows cannot begin with the repeated class, a greedy repetition takes all it
can. -/
theorem flatMap_repeated_greedy {α : Type} {k : Progress → List α}
    (hk : ∀ front c rest groups, accepts c = true → k ⟨front, c :: rest, groups⟩ = [])
    (groups : List Text) (front : Text) {run rest : Text} (hrun : ∀ c ∈ run, accepts c = true)
    (hrest : ∀ c ∈ rest.head?, accepts c = false) :
    (repeated .greedy accepts groups front (run ++ rest)).flatMap k =
      k ⟨front ++ run, rest, groups⟩ := by
  induction run generalizing front with
  | nil =>
    cases rest with
    | nil => simp [repeated]
    | cons c rest =>
      have hc : accepts c = false := hrest c rfl
      simp [repeated, hc]
  | cons c run ih =>
    obtain ⟨hc, hrun⟩ := List.forall_mem_cons.mp hrun
    rw [List.cons_append, repeated, if_pos hc, List.flatMap_append, ih _ hrun]
    simp [hk _ _ _ _ hc]

/-- With nothing behind it a greedy repetition takes all it can at first. -/
theorem head?_repeated_greedy (groups : List Text) (front : Text) {run rest : Text}
    (hrun : ∀ c ∈ run, accepts c = true) (hrest : ∀ c ∈ rest.head?, accepts c = false) :
    (repeated .greedy accepts groups front (run ++ rest)).head? =
      some ⟨front ++ run, rest, groups⟩ := by
  induction run generalizing front with
  | nil =>
    cases rest with
    | nil => simp [repeated]
    | cons c rest =>
      have hc : accepts c = false := hrest c rfl
      simp [repeated, hc]
  | cons c run ih =>
    obtain ⟨hc, hrun⟩ := List.forall_mem_cons.mp hrun
    rw [List.cons_append, repeated, if_pos hc, List.head?_append, ih _ hrun]
    simp

/-- A lazy repetition stops if what follows has a way, and goes on only else. -/
theorem flatMap_repeated_lazy_cons {α : Type} (k : Progress → List α) (groups : List Text)
    (front rest : Text) {c : Char} (hc : accepts c = true) :
    (repeated .lazy accepts groups front (c :: rest)).flatMap k =
      k ⟨front, c :: rest, groups⟩ ++
        (repeated .lazy accepts groups (front ++ [c]) rest).flatMap k := by
  rw [repeated, if_pos hc]
  rfl

end

theorem ways_word (w : Text) (front rest : Text) (groups : List Text) :
    ways (sequence (word w)) ⟨front, w ++ rest, groups⟩ = [⟨front ++ w, rest, groups⟩] := by
  induction w generalizing front with
  | nil => simp [word]
  | cons c w ih =>
    simp only [word] at ih ⊢
    rw [List.map_cons, ways_sequence_cons, List.cons_append, ways_one, if_pos (by simp)]
    simp [ih]

theorem exists_of_mem_word {w : Text} {p q : Progress} (h : q ∈ ways (sequence (word w)) p) :
    ∃ rest, p.rest = w ++ rest ∧ q = ⟨p.front ++ w, rest, p.groups⟩ := by
  induction w generalizing p with
  | nil => exact ⟨p.rest, rfl, by simpa [word] using h⟩
  | cons c w ih =>
    obtain ⟨r, hr, h⟩ := List.mem_flatMap.mp h
    obtain ⟨d, rest, hrest, hd, rfl⟩ := exists_of_mem_one hr
    obtain ⟨rest', hw, rfl⟩ := ih h
    have hdc : d = c := by simpa using hd
    subst hdc
    exact ⟨rest', by rw [hrest, List.cons_append]; exact congrArg (d :: ·) hw, by simp⟩

theorem exists_of_mem_atLeast {least : Nat} {accepts : Char → Bool} {p q : Progress}
    (h : q ∈ ways (sequence (atLeast least accepts)) p) :
    ∃ run rest, p.rest = run ++ rest ∧ least ≤ run.length ∧ (∀ c ∈ run, accepts c = true) ∧
      q = ⟨p.front ++ run, rest, p.groups⟩ := by
  induction least generalizing p with
  | zero =>
    obtain ⟨r, hr, h⟩ := List.mem_flatMap.mp h
    obtain ⟨run, rest, hrest, hrun, rfl⟩ := exists_of_mem_repeated hr
    exact ⟨run, rest, hrest, Nat.zero_le _, hrun, List.mem_singleton.mp h⟩
  | succ least ih =>
    obtain ⟨r, hr, h⟩ := List.mem_flatMap.mp h
    obtain ⟨c, rest, hrest, hc, rfl⟩ := exists_of_mem_one hr
    obtain ⟨run, rest', hrun, hleast, hall, rfl⟩ := ih h
    have hrest' : rest = run ++ rest' := hrun
    exact ⟨c :: run, rest', by rw [hrest, hrest', List.cons_append], Nat.succ_le_succ hleast,
      List.forall_mem_cons.mpr ⟨hc, hall⟩, by simp⟩

/-- The characters that have to be there leave the rest of a run to the repetition. -/
theorem ways_atLeast {accepts : Char → Bool} (groups : List Text) (front rest : Text) {run : Text}
    (hrun : ∀ c ∈ run, accepts c = true) :
    ways (sequence (atLeast run.length accepts)) ⟨front, run ++ rest, groups⟩ =
      repeated .greedy accepts groups (front ++ run) rest := by
  induction run generalizing front with
  | nil =>
    rw [List.append_nil]
    exact List.flatMap_singleton' _
  | cons c run ih =>
    obtain ⟨hc, hrun⟩ := List.forall_mem_cons.mp hrun
    have hstep : ways (sequence (atLeast (c :: run).length accepts))
          ⟨front, c :: run ++ rest, groups⟩ =
        ways (sequence (atLeast run.length accepts)) ⟨front ++ [c], run ++ rest, groups⟩ := by
      rw [atLeast, List.length_cons, List.replicate_succ, List.cons_append, ways_sequence_cons,
        List.cons_append, ways_one, if_pos hc, List.flatMap_singleton]
      rfl
    rw [hstep, ih _ hrun, List.append_assoc, List.singleton_append]

section

variable {accepts : Char → Bool} (groups : List Text) (front : Text) {least : Nat} {run rest : Text}
  (hleast : least ≤ run.length) (hrun : ∀ c ∈ run, accepts c = true)
  (hrest : ∀ c ∈ rest.head?, accepts c = false)

include hleast hrun

theorem ways_atLeast_run :
    ways (sequence (atLeast least accepts)) ⟨front, run ++ rest, groups⟩ =
      repeated .greedy accepts groups (front ++ run.take least) (run.drop least ++ rest) := by
  have hfirst : ∀ c ∈ run.take least, accepts c = true := fun c hc =>
    hrun c (List.mem_of_mem_take hc)
  have h := ways_atLeast groups front (run.drop least ++ rest) hfirst
  rwa [List.length_take, Nat.min_eq_left hleast, ← List.append_assoc, List.take_append_drop] at h

include hrest

/-- A run is read as a whole if what follows cannot begin with its class. -/
theorem flatMap_atLeast {α : Type} {k : Progress → List α}
    (hk : ∀ front c rest groups, accepts c = true → k ⟨front, c :: rest, groups⟩ = []) :
    (ways (sequence (atLeast least accepts)) ⟨front, run ++ rest, groups⟩).flatMap k =
      k ⟨front ++ run, rest, groups⟩ := by
  have hmore : ∀ c ∈ run.drop least, accepts c = true := fun c hc =>
    hrun c (List.mem_of_mem_drop hc)
  rw [ways_atLeast_run groups front hleast hrun, flatMap_repeated_greedy hk groups _ hmore hrest,
    List.append_assoc, List.take_append_drop]

theorem head?_atLeast :
    (ways (sequence (atLeast least accepts)) ⟨front, run ++ rest, groups⟩).head? =
      some ⟨front ++ run, rest, groups⟩ := by
  have hmore : ∀ c ∈ run.drop least, accepts c = true := fun c hc =>
    hrun c (List.mem_of_mem_drop hc)
  rw [ways_atLeast_run groups front hleast hrun, head?_repeated_greedy groups _ hmore hrest,
    List.append_assoc, List.take_append_drop]

end

theorem matchesFrom_of_head? {e : Expression} {front rest : Text} {p : Progress}
    (h : (ways e ⟨front, rest, []⟩).head? = some p) (hshorter : p.rest.length < rest.length) :
    matchesFrom e front rest =
      ⟨Text.octets front, Text.octets p.front, p.groups⟩ :: matchesFrom e p.front p.rest := by
  have hfilter :
      (ways e ⟨front, rest, []⟩).head?.filter (·.rest.length < rest.length) = some p := by
    rw [h, Option.filter_some, if_pos (by simpa using hshorter)]
  rw [matchesFrom]
  split
  · rename_i q hq
    rw [hfilter] at hq
    obtain rfl := Option.some.inj hq
    rfl
  · rename_i hq
    rw [hfilter] at hq
    exact absurd hq (by simp)

theorem matchesFrom_nil (e : Expression) (front : Text) : matchesFrom e front [] = [] := by
  rw [matchesFrom]
  split
  · rename_i p hp
    exact absurd (Option.filter_eq_some_iff.mp hp).2 (by simp)
  · rfl

theorem matchesFrom_of_nil {e : Expression} {front rest : Text} {c : Char}
    (h : ways e ⟨front, c :: rest, []⟩ = []) :
    matchesFrom e front (c :: rest) = matchesFrom e (front ++ [c]) rest := by
  rw [matchesFrom]
  split
  · rename_i p hp
    rw [h] at hp
    exact absurd hp (by simp)
  · rfl

end Expression

end WikiPivot
