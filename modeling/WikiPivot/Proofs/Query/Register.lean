import WikiPivot.Query.JoinRegister
import WikiPivot.Proofs.Query.Allocation

/-! # One join for each key, over any calls

A register keeps its joins in a list and their places in an index, and reads the list at the places
of the index unchecked. From an empty register no call brings the two out of step: every lookup is
inside the list, each key keeps the one alias that it was first given, and no two keys share one.
-/
namespace WikiPivot

def requestedKeys (calls : List JoinCall) : List Text :=
  calls.filterMap fun
    | .request key => some key
    | _ => none

theorem requestedKeys_map_request (keys : List Text) :
    requestedKeys (keys.map .request) = keys := by
  rw [requestedKeys, List.filterMap_map]
  exact List.filterMap_some

namespace Joins

def after (joins : Joins) : JoinCall → Joins
  | .request key => joins.insert key
  | _ => joins

theorem isPrefix_after (joins : Joins) (call : JoinCall) :
    joins.keys <+: (joins.after call).keys := by
  cases call with
  | request key => exact joins.isPrefix_insert key
  | _ => exact List.prefix_refl _

theorem isPrefix_foldl_after (joins : Joins) (calls : List JoinCall) :
    joins.keys <+: (calls.foldl after joins).keys :=
  foldl_isPrefix isPrefix_after joins calls

theorem keys_foldl_after (joins : Joins) (calls : List JoinCall) :
    (calls.foldl after joins).keys = (requestedKeys calls).foldl addNew joins.keys := by
  induction calls generalizing joins with
  | nil => rfl
  | cons call calls ih =>
    rw [List.foldl_cons, ih]
    cases call <;> rfl

theorem nodup_insert {joins : Joins} (h : joins.keys.Nodup) (key : Text) :
    (joins.insert key).keys.Nodup := by
  unfold insert addNew
  split
  · exact h
  · next hkey =>
    rw [← List.concat_eq_append]
    exact h.concat hkey

/-- An alias is the same in all later joins. -/
theorem alias?_of_isPrefix {joins later : Joins} {key name : Text}
    (hlater : joins.keys <+: later.keys) (hname : joins.alias? key = some name) :
    later.alias? key = some name := by
  unfold alias? at hname ⊢
  split at hname
  · next hkey => rwa [if_pos (hlater.subset hkey), ← slot_eq_of_isPrefix hkey hlater]
  · exact absurd hname (by simp)

theorem alias?_eq_some {joins : Joins} (h : joins.keys.Nodup) {key name : Text} :
    joins.alias? key = some name ↔ (key, name) ∈ joins.entries := by
  rw [mem_entries, alias?]
  constructor
  · intro hname
    split at hname
    · next hkey => exact ⟨_, List.getElem?_idxOf hkey, (Option.some.inj hname).symm⟩
    · exact absurd hname (by simp)
  · rintro ⟨slot, hkey, rfl⟩
    obtain ⟨hlt, rfl⟩ := List.getElem?_eq_some_iff.mp hkey
    rw [if_pos (List.getElem_mem hlt), Joins.slot, h.idxOf_getElem]

theorem alias?_eq_none {joins : Joins} {key : Text} :
    joins.alias? key = none ↔ key ∉ joins.keys := by
  unfold alias?
  split <;> simp_all

end Joins

namespace JoinRegister

structure Holds (register : JoinRegister) (joins : Joins) : Prop where
  once : joins.keys.Nodup
  list : register.joins = joins.entries.map fun entry => ⟨entry.1, entry.2⟩
  index : ∀ key, register.slot? key = if key ∈ joins.keys then some (joins.slot key) else none

theorem holds_empty : empty.Holds .empty where
  once := List.nodup_nil
  list := rfl
  index := fun _ => rfl

namespace Holds

variable {register later : JoinRegister} {joins joins' : Joins}

theorem map_key (h : register.Holds joins) : register.joins.map (·.key) = joins.keys := by
  rw [h.list, List.map_map]
  exact joins.map_fst_entries

theorem length_eq (h : register.Holds joins) : register.joins.length = joins.keys.length := by
  rw [← h.map_key, List.length_map]

theorem mem_joins (h : register.Holds joins) {join : Join} :
    join ∈ register.joins ↔ (join.key, join.name) ∈ joins.entries := by
  rw [h.list, List.mem_map]
  constructor
  · rintro ⟨entry, hentry, rfl⟩
    exact hentry
  · intro hentry
    exact ⟨_, hentry, rfl⟩

theorem getElem?_joins (h : register.Holds joins) (slot : Nat) :
    register.joins[slot]? = joins.keys[slot]?.map (⟨·, Joins.aliasAt slot⟩) := by
  rw [h.list, entries_eq, List.getElem?_map, List.getElem?_map, List.getElem?_zipIdx]
  cases joins.keys[slot]? <;> simp

theorem slot?_eq_some (h : register.Holds joins) {key : Text} {slot : Nat} :
    register.slot? key = some slot ↔
      ∃ join, register.joins[slot]? = some join ∧ join.key = key := by
  rw [h.index, h.getElem?_joins]
  constructor
  · intro hslot
    split at hslot
    · next hkey =>
      obtain rfl := Option.some.inj hslot
      have hat : joins.keys[joins.slot key]? = some key := List.getElem?_idxOf hkey
      exact ⟨⟨key, Joins.aliasAt (joins.slot key)⟩, by rw [hat]; rfl, rfl⟩
    · exact absurd hslot (by simp)
  · rintro ⟨join, hjoin, rfl⟩
    obtain ⟨key, hkey, rfl⟩ := Option.map_eq_some_iff.mp hjoin
    obtain ⟨hlt, rfl⟩ := List.getElem?_eq_some_iff.mp hkey
    rw [if_pos (List.getElem_mem hlt), Joins.slot, h.once.idxOf_getElem]

theorem key_eq (h : register.Holds joins) {a b : Join} (ha : a ∈ register.joins)
    (hb : b ∈ register.joins) (hname : a.name = b.name) : a.key = b.key :=
  congrArg Prod.fst (Joins.entry_eq (h.mem_joins.mp ha) (h.mem_joins.mp hb) hname)

/-- A place that the index gives is in the list, and has the alias of its key. -/
theorem nameAt?_slot (h : register.Holds joins) {key : Text} (hkey : key ∈ joins.keys) :
    register.nameAt? (joins.slot key) = some (Joins.aliasAt (joins.slot key)) := by
  have hslot : joins.keys[joins.slot key]? = some key := List.getElem?_idxOf hkey
  rw [nameAt?, h.getElem?_joins, hslot]
  rfl

theorem find_eq (h : register.Holds joins) (key : Text) :
    register.find key = some (joins.alias? key) := by
  unfold JoinRegister.find Joins.alias?
  rw [h.index]
  by_cases hkey : key ∈ joins.keys
  · simp only [if_pos hkey, h.nameAt?_slot hkey, Option.map_some]
  · simp only [if_neg hkey]

theorem add (h : register.Holds joins) {key : Text} (hkey : key ∉ joins.keys) :
    (register.add key).Holds (joins.insert key) := by
  have hkeys : (joins.insert key).keys = joins.keys ++ [key] := addNew_of_not_mem hkey
  refine ⟨joins.nodup_insert h.once key, ?_, ?_⟩
  · rw [JoinRegister.add, h.list, entries_eq, entries_eq, hkeys, List.zipIdx_append,
      List.map_append, List.map_append]
    simp
  · intro key'
    have hindex := h.index key'
    rw [slot?] at hindex
    rw [slot?, JoinRegister.add, h.length_eq, List.lookup_cons, Joins.slot, hkeys]
    by_cases hsame : key' = key
    · subst hsame
      have hslot : (joins.keys ++ [key']).idxOf key' = joins.keys.length := by
        simp [List.idxOf_append_of_notMem hkey]
      simp [hslot]
    · have hslot : key' ∈ joins.keys → (joins.keys ++ [key]).idxOf key' = joins.slot key' :=
        fun hmem => List.idxOf_append_of_mem hmem
      simp only [beq_false_of_ne hsame, hindex, List.mem_append, List.mem_singleton, hsame,
        or_false]
      split
      · next hmem => rw [hslot hmem]
      · rfl

theorem allot (h : register.Holds joins) (key : Text) :
    (register.allot key).1 = (joins.insert key).slot key ∧
      (register.allot key).2.Holds (joins.insert key) := by
  unfold JoinRegister.allot
  rw [h.index]
  by_cases hkey : key ∈ joins.keys
  · have hsame : joins.insert key = joins := congrArg Joins.mk (addNew_of_mem hkey)
    simp only [if_pos hkey, hsame]
    exact ⟨trivial, h⟩
  · have hlast : (joins.insert key).slot key = register.joins.length := by
      rw [Joins.slot, Joins.insert, addNew_of_not_mem hkey, h.length_eq]
      simp [List.idxOf_append_of_notMem hkey]
    simp only [if_neg hkey]
    exact ⟨hlast.symm, h.add hkey⟩

theorem request (h : register.Holds joins) (key : Text) :
    ∃ later, register.request key = some ((joins.request key).1, later) ∧
      later.Holds (joins.insert key) := by
  obtain ⟨hslot, hlater⟩ := h.allot key
  have hname := hlater.nameAt?_slot (mem_addNew.mpr (Or.inr rfl) : key ∈ (joins.insert key).keys)
  refine ⟨_, ?_, hlater⟩
  rw [JoinRegister.request]
  simp only [hslot, hname, Option.map_some]
  rfl

theorem isPrefix (h : register.Holds joins) (h' : later.Holds joins')
    (hlater : joins.keys <+: joins'.keys) : register.joins <+: later.joins := by
  obtain ⟨more, hmore⟩ := hlater
  rw [h.list, h'.list, entries_eq, entries_eq, ← hmore, List.zipIdx_append, List.map_append,
    List.map_append]
  exact List.prefix_append _ _

theorem find_later (h : register.Holds joins) (h' : later.Holds joins')
    (hlater : joins.keys <+: joins'.keys) {key name : Text}
    (hname : register.find key = some (some name)) : later.find key = some (some name) := by
  rw [h.find_eq, Option.some_inj] at hname
  rw [h'.find_eq, Joins.alias?_of_isPrefix hlater hname]

end Holds

/-- An answer that the register still bears out, whatever was asked since. -/
def Confirms (register : JoinRegister) : JoinCall → JoinAnswer → Prop
  | .request key, .name name => register.find key = some (some name)
  | .find key, .found name => ∀ known, name = some known → register.find key = some (some known)
  | .first, .first join => ∀ known, join = some known → register.joins.head? = some known
  | .all, .all joins => joins <+: register.joins
  | .count, .count count => count ≤ register.joins.length
  | .isEmpty, .isEmpty flag => flag = false → register.joins.isEmpty = false
  | _, _ => False

namespace Holds

variable {register later : JoinRegister} {joins joins' : Joins}

theorem confirms_later (h : register.Holds joins) (h' : later.Holds joins')
    (hlater : joins.keys <+: joins'.keys) {call : JoinCall} {answer : JoinAnswer}
    (hanswer : register.Confirms call answer) : later.Confirms call answer := by
  have hlist := h.isPrefix h' hlater
  -- answers of another kind than the call's are none of its answers
  cases call <;> cases answer <;> try exact hanswer.elim
  case request key name => exact h.find_later h' hlater hanswer
  case find key name => exact fun known hknown => h.find_later h' hlater (hanswer known hknown)
  case first join =>
    obtain ⟨rest, hrest⟩ := hlist
    exact fun known hknown => by
      rw [← hrest, List.head?_append, hanswer known hknown, Option.some_or]
  case all joins => exact List.IsPrefix.trans hanswer hlist
  case count count => exact Nat.le_trans hanswer hlist.length_le
  case isEmpty flag =>
    intro hflag
    have hfirst := hanswer hflag
    rw [List.isEmpty_eq_false_iff] at hfirst ⊢
    exact fun hnil => hfirst (List.prefix_nil.mp (hnil ▸ hlist))

/-- A call gets an answer, which is right for the register that it leaves. -/
theorem call (h : register.Holds joins) (call : JoinCall) :
    ∃ answer later, register.call call = some (answer, later) ∧ later.Holds (joins.after call) ∧
      later.Confirms call answer := by
  cases call with
  | request key =>
    obtain ⟨later, hrequest, hlater⟩ := h.request key
    have hmem : key ∈ (joins.insert key).keys := mem_addNew.mpr (Or.inr rfl)
    refine ⟨.name (joins.request key).1, later, by rw [JoinRegister.call, hrequest]; rfl, hlater,
      ?_⟩
    rw [Confirms, hlater.find_eq, Joins.alias?, if_pos hmem]
    rfl
  | find key =>
    refine ⟨.found (joins.alias? key), register, ?_, h, fun known hknown => ?_⟩
    · rw [JoinRegister.call, h.find_eq]
      rfl
    · rw [h.find_eq, hknown]
  | first => exact ⟨_, _, rfl, h, fun known hknown => hknown⟩
  | all => exact ⟨_, _, rfl, h, List.prefix_refl _⟩
  | count => exact ⟨_, _, rfl, h, Nat.le_refl _⟩
  | isEmpty => exact ⟨_, _, rfl, h, id⟩

/-- All calls get an answer, and the register at the end bears every one of them out. -/
theorem calls (h : register.Holds joins) (calls : List JoinCall) :
    ∃ answers later, register.calls calls = some (answers, later) ∧
      later.Holds (calls.foldl Joins.after joins) ∧ List.Forall₂ later.Confirms calls answers := by
  induction calls generalizing register joins with
  | nil => exact ⟨[], register, rfl, h, .nil⟩
  | cons call rest ih =>
    obtain ⟨answer, next, hcall, hnext, hanswer⟩ := h.call call
    obtain ⟨answers, later, hrest, hlater, hanswers⟩ := ih hnext
    have hprefix := (joins.after call).isPrefix_foldl_after rest
    refine ⟨answer :: answers, later, ?_, hlater, .cons ?_ hanswers⟩
    · simp [JoinRegister.calls, hcall, hrest]
    · exact hnext.confirms_later hlater hprefix hanswer

end Holds

theorem calls_append {register next later : JoinRegister} {calls more : List JoinCall}
    {answers late : List JoinAnswer} (hcalls : register.calls calls = some (answers, next))
    (hmore : next.calls more = some (late, later)) :
    register.calls (calls ++ more) = some (answers ++ late, later) := by
  induction calls generalizing register answers with
  | nil =>
    obtain ⟨rfl, rfl⟩ := Prod.mk.inj (Option.some.inj hcalls)
    exact hmore
  | cons call calls ih =>
    simp only [JoinRegister.calls, Option.bind_eq_bind, Option.bind_eq_some_iff] at hcalls
    obtain ⟨⟨answer, between⟩, hcall, ⟨rest, next'⟩, hrest, heq⟩ := hcalls
    obtain ⟨rfl, rfl⟩ := Prod.mk.inj (Option.some.inj heq)
    simp [JoinRegister.calls, hcall, ih hrest]

/-- What a register is after calls on an empty one, and what it says of the answers they got. -/
structure Records (register : JoinRegister) (calls : List JoinCall) (answers : List JoinAnswer) :
    Prop where
  /-- The keys are those requested, in the order in which they first were. -/
  keys : register.joins.map (·.key) = (requestedKeys calls).eraseDups
  once : (register.joins.map (·.key)).Nodup
  names : register.joins.map (·.name) =
    (List.range register.joins.length).map fun slot => 'T' :: Text.ofNat (slot + 1)
  /-- The index has the place of each join, and no place but those. -/
  index : ∀ key slot, register.slot? key = some slot ↔
    ∃ join, register.joins[slot]? = some join ∧ join.key = key
  found : ∀ key name, register.find key = some (some name) ↔ ⟨key, name⟩ ∈ register.joins
  absent : ∀ key, register.find key = some none ↔ key ∉ requestedKeys calls
  apart : ∀ a ∈ register.joins, ∀ b ∈ register.joins, a.key ≠ b.key → a.name ≠ b.name
  answers : List.Forall₂ register.Confirms calls answers

theorem Holds.records {register : JoinRegister} {calls : List JoinCall} {answers : List JoinAnswer}
    (h : register.Holds (calls.foldl Joins.after .empty))
    (hanswers : List.Forall₂ register.Confirms calls answers) : register.Records calls answers := by
  have hkeys : (calls.foldl Joins.after .empty).keys = distinct (requestedKeys calls) :=
    Joins.keys_foldl_after .empty calls
  refine ⟨?keys, ?once, ?names, ?index, ?found, ?absent, ?apart, hanswers⟩
  case keys => rw [h.map_key, hkeys, eraseDups_eq_distinct]
  case once => exact h.map_key ▸ h.once
  case names =>
    rw [h.length_eq, h.list, List.map_map]
    exact Joins.map_snd_entries _
  case index => exact fun _ _ => h.slot?_eq_some
  case found =>
    intro key name
    rw [h.find_eq, Option.some_inj, Joins.alias?_eq_some h.once, h.mem_joins]
  case absent =>
    intro key
    rw [h.find_eq, Option.some_inj, Joins.alias?_eq_none, hkeys, mem_distinct]
  case apart => exact fun _ ha _ hb hne hsame => hne (h.key_eq ha hb hsame)

/-- Requests for the keys that a directive mentions leave the joins of its query. -/
theorem holds_ofSpec (sentinel : Text) {spec : TableSpec} (h : spec.columns ≠ [])
    (override : Option SortKey) :
    let keys := (spec.mentions (Query.effectiveSort spec override)).filter (· ≠ sentinel)
    ∃ answers register, empty.calls (keys.map .request) = some (answers, register) ∧
      register.Holds (Query.ofSpec sentinel spec override).joins := by
  intro keys
  obtain ⟨answers, register, hcalls, hregister, -⟩ := holds_empty.calls (keys.map .request)
  have hjoins : (keys.map .request).foldl Joins.after .empty = Joins.ofKeys keys := by
    have hkeys := Joins.keys_foldl_after .empty (keys.map .request)
    rw [requestedKeys_map_request] at hkeys
    exact congrArg Joins.mk hkeys
  refine ⟨answers, register, hcalls, ?_⟩
  rwa [joins_ofSpec sentinel h override, ← hjoins]

/-- Whatever is asked of an empty register, no lookup leaves its list, each key requested has one
join, and an alias once given is that of its key in all that follows. -/
theorem aliases_hold_over_all_calls (calls more : List JoinCall) :
    ∃ answers register late later,
      empty.calls calls = some (answers, register) ∧ register.calls more = some (late, later) ∧
      empty.calls (calls ++ more) = some (answers ++ late, later) ∧
      register.Records calls answers ∧ later.Records (calls ++ more) (answers ++ late) ∧
      register.joins <+: later.joins ∧
      ∀ key name, register.find key = some (some name) → later.find key = some (some name) := by
  obtain ⟨answers, register, hcalls, hregister, hanswers⟩ := holds_empty.calls calls
  obtain ⟨late, later, hmore, hlater, hlate⟩ := hregister.calls more
  have hprefix := (calls.foldl Joins.after .empty).isPrefix_foldl_after more
  have hall : List.Forall₂ later.Confirms (calls ++ more) (answers ++ late) :=
    List.rel_append (hanswers.imp fun _ _ => hregister.confirms_later hlater hprefix) hlate
  refine ⟨answers, register, late, later, hcalls, hmore, calls_append hcalls hmore,
    hregister.records hanswers, Holds.records ?_ hall, hregister.isPrefix hlater hprefix,
    fun _ _ => hregister.find_later hlater hprefix⟩
  rw [List.foldl_append]
  exact hlater

example :
    (empty.calls [.request "a".toList, .find "b".toList, .request "b".toList,
      .request "a".toList]).map Prod.fst =
      some [.name "T1".toList, .found none, .name "T2".toList, .name "T1".toList] := by
  decide +kernel

end JoinRegister

end WikiPivot
