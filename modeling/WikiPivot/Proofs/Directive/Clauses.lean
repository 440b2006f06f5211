import WikiPivot.Proofs.Directive.Escaping

/-! # Clauses read from their written form

Columns, sorts and filters that are written out are read back as they were.
-/
namespace WikiPivot

open Text

/-- A key as the reader leaves it, one word that lowercasing keeps. -/
structure IsKey (key : Text) : Prop where
  nonempty : key ≠ []
  unblank : ∀ c ∈ key, isBlank c = false
  lowercase : Text.lowercase key = key

theorem IsKey.of_all {key : Text} (hne : key ≠ []) (hunblank : key.all (!isBlank ·) = true)
    (hlowercase : Text.lowercase key = key) : IsKey key :=
  ⟨hne, fun c hc => by simpa using List.all_eq_true.mp hunblank c hc, hlowercase⟩

/-- A marker before a key makes another key, also where nothing follows it. -/
theorem isKey_marked {marker : Char} (hmarker : isMarker marker = true) {key : Text}
    (hunblank : ∀ c ∈ key, isBlank c = false) (hlowercase : Text.lowercase key = key) :
    IsKey (marker :: key) := by
  simp only [isMarker, Bool.and_eq_true, Bool.not_eq_true', bne_iff_ne] at hmarker
  obtain ⟨⟨halphanumeric, hblank⟩, -⟩ := hmarker
  refine ⟨List.cons_ne_nil _ _, List.forall_mem_cons.mpr ⟨hblank, hunblank⟩, ?_⟩
  rw [lowercase_eq_self_iff]
  exact List.forall_mem_cons.mpr
    ⟨kept_of_not_alphanumeric halphanumeric, lowercase_eq_self_iff.mp hlowercase⟩

theorem IsKey.trimmed {key : Text} (h : IsKey key) : Trimmed key := trimmed_of_forall h.unblank

namespace ColumnType

/-- The name of a type that was read is read as that type. -/
theorem ofToken_name (token : Text) :
    Trimmed (ofToken token).name ∧ (ofToken token).name ≠ [] ∧
      ofToken (ofToken token).name = ofToken token := by
  cases hlookup : known.lookup (Text.lowercase (trim token)) with
  | none =>
    have htype : ofToken token = other (trim token) := by
      simp only [ofToken, hlookup, Option.getD_none]
    have hne : trim token ≠ [] := by
      intro hnil
      rw [hnil] at hlookup
      exact absurd hlookup (by decide)
    have hread : ofToken (trim token) = ofToken token := by rw [ofToken, ofToken, trim_trim]
    rw [htype] at hread ⊢
    exact ⟨trimmed_trim token, hne, hread⟩
  | some type =>
    have htype : ofToken token = type := by
      simp only [ofToken, hlookup, Option.getD_some]
    have hknown : type ∈ known.map Prod.snd := by
      obtain ⟨before, after, hsplit, -⟩ := List.lookup_eq_some_iff.mp hlookup
      rw [hsplit]
      simp
    have hall : ∀ type ∈ known.map Prod.snd, trim type.name = type.name ∧ type.name ≠ [] ∧
        ofToken type.name = type := by
      decide +kernel
    obtain ⟨htrim, hne, hread⟩ := hall type hknown
    rw [htype]
    exact ⟨trim_eq_self_iff.mp htrim, hne, hread⟩

end ColumnType

namespace ColumnMention

theorem ofToken_trim (sentinel token : Text) :
    ofToken sentinel (trim token) = ofToken sentinel token := by
  simp only [ofToken, trim_trim]

variable {key : Text} (h : IsKey key) (sentinel : Text)

include h

theorem ofToken_key : ofToken sentinel key = ⟨key, none, key == sentinel⟩ := by
  have hnil : (trim []).isEmpty = true := rfl
  simp only [ofToken, trim_of_trimmed h.trimmed, firstWord_of_forall h.unblank, h.lowercase, hnil,
    if_true]

theorem ofToken_typed {typeName : Text} (htrim : Trimmed typeName) (hne : typeName ≠ []) :
    ofToken sentinel (key ++ ' ' :: typeName) =
      ⟨key, some (ColumnType.ofToken typeName), key == sentinel⟩ := by
  have htoken : Trimmed (key ++ ([' '] ++ typeName)) := h.trimmed.append htrim h.nonempty hne [' ']
  have hshown : typeName.isEmpty = false := by simpa using hne
  rw [List.singleton_append] at htoken
  simp only [ofToken, trim_of_trimmed htoken, firstWord_append_cons h.unblank (c := ' ') rfl,
    h.lowercase, trim_of_trimmed htrim, hshown]
  rfl

end ColumnMention

namespace Comparator

theorem mem_spellings_shape {token : Text} {comparator : Comparator}
    (h : (token, comparator) ∈ spellings) : token ≠ [] ∧ ∀ c ∈ token, isBlank c = false := by
  have hall : ∀ entry ∈ spellings, entry.1 ≠ [] ∧ entry.1.all (!isBlank ·) = true := by decide
  obtain ⟨hne, hunblank⟩ := hall _ h
  exact ⟨hne, fun c hc => by simpa using List.all_eq_true.mp hunblank c hc⟩

theorem ofToken?_of_mem {token : Text} {comparator : Comparator}
    (h : (token, comparator) ∈ spellings) : ofToken? token = some comparator := by
  have hall : ∀ entry ∈ spellings, ofToken? entry.1 = some entry.2 := by decide
  exact hall _ h

theorem exists_spelling (comparator : Comparator) : ∃ token, (token, comparator) ∈ spellings := by
  cases comparator
  · exact ⟨"=".toList, by decide⟩
  · exact ⟨"!=".toList, by decide⟩
  · exact ⟨"<".toList, by decide⟩
  · exact ⟨"<=".toList, by decide⟩
  · exact ⟨">".toList, by decide⟩
  · exact ⟨">=".toList, by decide⟩
  · exact ⟨"~".toList, by decide⟩

/-- No longer spelling begins with this one if a blank or nothing follows. -/
theorem spellingAt?_append {token : Text} {comparator : Comparator}
    (h : (token, comparator) ∈ spellings) {rest : Text} (hrest : ∀ c ∈ rest.head?, c = ' ') :
    spellingAt? (token ++ rest) = some token := by
  have hend : rest = [] ∨ ∃ more, rest = ' ' :: more := by
    cases rest with
    | nil => exact Or.inl rfl
    | cons c more => exact Or.inr ⟨more, by rw [hrest c rfl]⟩
  simp only [spellings, List.mem_cons, Prod.mk.injEq, List.not_mem_nil, or_false] at h
  rcases hend with rfl | ⟨more, rfl⟩
  · rcases h with h | h | h | h | h | h | h | h | h <;> rw [h.1] <;> decide
  · rcases h with h | h | h | h | h | h | h | h | h <;> rw [h.1] <;> rfl

theorem spellingAt?_eq_none {t : Text} (h : ∀ entry ∈ spellings, ¬ entry.1 <+: t) :
    spellingAt? t = none := by
  rw [spellingAt?, List.find?_eq_none]
  intro token htoken
  obtain ⟨entry, hentry, rfl⟩ := List.mem_map.mp htoken
  simpa using h entry hentry

end Comparator

/-- Where the key holds no spelling, the cut is made at the one behind it. -/
theorem split?_written {key token : Text} {comparator : Comparator}
    (hkey : ∀ entry ∈ Comparator.spellings, ¬ entry.1 <:+: key)
    (htoken : (token, comparator) ∈ Comparator.spellings) {rest : Text}
    (hrest : ∀ c ∈ rest.head?, c = ' ') :
    Comparison.split? (key ++ ' ' :: (token ++ rest)) = some ⟨key ++ [' '], token, rest⟩ := by
  have hshape : ∀ entry ∈ Comparator.spellings, entry.1 ≠ [] ∧ ' ' ∉ entry.1 := by decide
  -- No spelling begins inside the key and runs on behind it, for none holds a blank.
  have hstay : ∀ s, s <:+ key → Comparator.spellingAt? (s ++ ' ' :: (token ++ rest)) = none := by
    intro s hs
    apply Comparator.spellingAt?_eq_none
    intro entry hentry hprefix
    have hinside := prefix_of_prefix_append_cons (hshape entry hentry).2 hprefix
    exact hkey entry hentry (hinside.isInfix.trans hs.isInfix)
  clear hkey
  induction key with
  | nil =>
    obtain ⟨hne, -⟩ := Comparator.mem_spellings_shape htoken
    have hnow := Comparator.spellingAt?_append htoken hrest
    obtain ⟨c, more, rfl⟩ := List.exists_cons_of_ne_nil hne
    have hblank := hstay [] (List.suffix_refl _)
    rw [List.nil_append] at hblank ⊢
    rw [Comparison.split?, hblank]
    rw [List.cons_append] at hnow ⊢
    simp only [Comparison.split?, hnow]
    simp
  | cons c key ih =>
    have hnone := hstay (c :: key) (List.suffix_refl _)
    have hrec := ih fun s hs => hstay s (hs.trans (List.suffix_cons c key))
    rw [List.cons_append] at hnone ⊢
    rw [Comparison.split?, hnone]
    simp only [hrec, Option.map_some, List.cons_append]

/-- A key and a descending marker before it, if any, are read back as the sort they stand for. -/
theorem parse?_parameter {sort : SortKey} {marker : Char} (hkey : IsKey sort.key)
    (hmarker : isMarker marker = true)
    (hplain : sort.direction = .ascending → sort.key.head? ≠ some marker) (sentinel : Text) :
    SortKey.parse? sentinel marker (sort.parameter marker) = some sort := by
  obtain ⟨key, direction⟩ := sort
  cases direction with
  | ascending =>
    obtain ⟨c, rest, hcons⟩ := List.exists_cons_of_ne_nil hkey.nonempty
    have hc : c ≠ marker := by
      have := hplain rfl
      simp only at hcons
      rw [hcons] at this
      simpa using this
    simp only at hcons
    rw [SortKey.parse?, SortKey.parameter, ColumnMention.ofToken_key hkey]
    simp [hcons, SortKey.ofKey, hc]
  | descending =>
    have hmarked : IsKey (marker :: key) := isKey_marked hmarker hkey.unblank hkey.lowercase
    have hne : key.isEmpty = false := by simpa using hkey.nonempty
    rw [SortKey.parse?, SortKey.parameter, ColumnMention.ofToken_key hmarked]
    simp [SortKey.ofKey, hne]

/-- A key that begins with the marker is read as the key behind it. -/
theorem SortKey.parse?_marked {marker : Char} {rest : Text} (hkey : IsKey (marker :: rest))
    (sentinel : Text) :
    SortKey.parse? sentinel marker (marker :: rest) =
      if rest = [] then none else some ⟨rest, .descending⟩ := by
  rw [SortKey.parse?, ColumnMention.ofToken_key hkey]
  simp [SortKey.ofKey]

theorem parse?_trim (sentinel : Text) (marker : Char) (token : Text) :
    SortKey.parse? sentinel marker (trim token) = SortKey.parse? sentinel marker token := by
  rw [SortKey.parse?, SortKey.parse?, ColumnMention.ofToken_trim]

namespace Directive.Clause

/-- A condition is read back from its key, any spelling of its comparator and its value. -/
theorem ofFilter_written {key token value : Text} {comparator : Comparator} (hkey : IsKey key)
    (hfree : ∀ entry ∈ Comparator.spellings, ¬ entry.1 <:+: key)
    (htoken : (token, comparator) ∈ Comparator.spellings) (hvalue : Trimmed value)
    (hstar : comparator = .like → '*' ∉ value) (sentinel : Text) (logic : Logic) :
    ofFilter sentinel logic (trim (key ++ ' ' :: (token ++ ' ' :: value))) =
      filter ⟨key, comparator, Literal.ofText value, logic⟩ := by
  obtain ⟨hne, hunblank⟩ := Comparator.mem_spellings_shape htoken
  have hfront : Trimmed (key ++ ([' '] ++ token)) :=
    hkey.trimmed.append (trimmed_of_forall hunblank) hkey.nonempty hne [' ']
  have hargument : trim (key ++ ' ' :: (token ++ ' ' :: value)) =
      key ++ ' ' :: (token ++ trimRight (' ' :: value)) := by
    have hassoc : key ++ ' ' :: (token ++ ' ' :: value) =
        key ++ ([' '] ++ token) ++ ' ' :: value := by simp
    rw [hassoc, trim_append hfront (by simp [hkey.nonempty])]
    simp
  have hblank : ∀ c ∈ (trimRight (' ' :: value)).head?, c = ' ' := by
    intro c hc
    obtain ⟨post, -, hsplit⟩ := exists_trimRight (' ' :: value)
    have hhead : c ∈ (trimRight (' ' :: value) ++ post).head? :=
      List.mem_head?_append_of_mem_head? hc
    rw [← hsplit] at hhead
    simpa using hhead.symm
  have hmention : ColumnMention.ofToken sentinel (key ++ [' ']) = ⟨key, none, key == sentinel⟩ := by
    rw [← ColumnMention.ofToken_trim, trim_append_blanks (blanks_singleton (by decide)),
      trim_of_trimmed hkey.trimmed, ColumnMention.ofToken_key hkey]
  have hprepare : comparator.prepare value = value := by
    cases comparator with
    | like => exact replaceChar_of_not_mem (hstar rfl) _
    | _ => rfl
  have hright : trim (trimRight (' ' :: value)) = value := by
    rw [trim_trimRight, trim_cons_of_isBlank (by decide), trim_of_trimmed hvalue]
  have hshown : key.isEmpty = false := by simpa using hkey.nonempty
  rw [ofFilter, hargument, split?_written hfree htoken hblank]
  simp only [Comparator.ofToken?_of_mem htoken, hmention, hshown, hright, hprepare]
  rfl

end Directive.Clause

end WikiPivot
