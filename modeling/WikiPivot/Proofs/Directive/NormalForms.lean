import WikiPivot.Proofs.Directive.WellFormed

/-! # Normal forms of columns and sorts

A column that was read can be written as its key and the name of its type, one space between them,
and is read from that again. A sort can be written as its key, behind the marker if it is
descending, which is the first word of the text that it was read from, in lowercase. White space at
the ends of a token, and how much of it stands behind the first word, make no difference.
-/
namespace WikiPivot

open Text

namespace Text

/-- Blanks stand before the word, and what follows it begins with one. -/
structure FirstWord (word rest token : Text) : Prop where
  nonempty : word ≠ []
  unblank : ∀ c ∈ word, isBlank c = false
  ended : ∀ c ∈ rest.head?, isBlank c = true
  split : ∃ pre, Blanks pre ∧ token = pre ++ (word ++ rest)

theorem exists_firstWord {token : Text} (h : trim token ≠ []) :
    ∃ word rest, FirstWord word rest token := by
  obtain ⟨pre, post, hpre, hpost, htoken⟩ := exists_trim token
  have hfirst : (trim token).takeWhile (!isBlank ·) ≠ [] := by
    obtain ⟨c, rest, hcons⟩ := List.exists_cons_of_ne_nil h
    have hc : isBlank c = false := (trimmed_trim token).first c (by rw [hcons]; rfl)
    rw [hcons, List.takeWhile_cons_of_pos (by simpa using hc)]
    exact List.cons_ne_nil _ _
  refine ⟨_, (trim token).dropWhile (!isBlank ·) ++ post, hfirst, ?_, ?_, pre, hpre, ?_⟩
  · intro c hc
    simpa using List.mem_takeWhile_imp hc
  · intro c hc
    cases hbehind : (trim token).dropWhile (!isBlank ·) with
    | nil =>
      rw [hbehind, List.nil_append] at hc
      exact hpost c (List.mem_of_mem_head? hc)
    | cons d behind =>
      have hd := List.head?_dropWhile_not (!isBlank ·) (trim token)
      rw [hbehind] at hc hd
      obtain rfl : d = c := by simpa using hc
      simpa using hd
  · rw [← List.append_assoc (List.takeWhile _ _), List.takeWhile_append_dropWhile]
    exact htoken

/-- The first word is found where it stands, and behind it the rest but for blanks. -/
theorem FirstWord.exists_firstWord_eq {word rest token : Text} (h : FirstWord word rest token) :
    ∃ behind, firstWord (trim token) = (word, behind) ∧ trim behind = trim rest := by
  obtain ⟨pre, hpre, rfl⟩ := h.split
  rw [trim_blanks_append hpre, trim_append (trimmed_of_forall h.unblank) h.nonempty]
  obtain ⟨post, -, hrest⟩ := exists_trimRight rest
  cases hright : trimRight rest with
  | nil =>
    refine ⟨[], ?_, ?_⟩
    · rw [List.append_nil, firstWord_of_forall h.unblank]
    · rw [← trim_trimRight rest, hright]
  | cons c behind =>
    have hc : isBlank c = true := by
      apply h.ended
      rw [hrest, hright]
      rfl
    refine ⟨behind, firstWord_append_cons h.unblank hc behind, ?_⟩
    rw [← trim_trimRight rest, hright, trim_cons_of_isBlank hc]

theorem firstWord_before_blanks {word gap : Text} (hword : word ≠ [])
    (hunblank : ∀ c ∈ word, isBlank c = false) (hgap : Blanks gap) (hne : gap ≠ []) (rest : Text) :
    FirstWord word (gap ++ rest) (word ++ (gap ++ rest)) where
  nonempty := hword
  unblank := hunblank
  ended := by
    intro c hc
    rw [List.head?_append_of_ne_nil _ hne] at hc
    exact hgap c (List.mem_of_mem_head? hc)
  split := ⟨[], blanks_nil, rfl⟩

end Text

namespace ColumnMention

variable (sentinel : Text)

def written (mention : ColumnMention) : Text :=
  match mention.declared with
  | none => mention.key
  | some type => mention.key ++ ' ' :: type.name

/-- The first word in lowercase is the key, and the rest, if it is not blank, names the type. -/
theorem ofToken_firstWord {word rest token : Text} (h : FirstWord word rest token) :
    ofToken sentinel token =
      ⟨lowercase word,
        if (trim rest).isEmpty then none else some (ColumnType.ofToken (trim rest)),
        lowercase word == sentinel⟩ := by
  obtain ⟨behind, hword, hrest⟩ := h.exists_firstWord_eq
  simp only [ofToken, hword, hrest]

theorem exists_firstWord {token : Text} (h : (ofToken sentinel token).key ≠ []) :
    ∃ word rest, FirstWord word rest token := by
  apply Text.exists_firstWord
  intro hblank
  apply h
  rw [← ofToken_trim, hblank]
  rfl

/-- What a mention is written as is read as the mention. -/
theorem ofToken_written {token : Text} (h : (ofToken sentinel token).key ≠ []) :
    ofToken sentinel (ofToken sentinel token).written = ofToken sentinel token := by
  have hkey := isKey_ofToken sentinel token h
  obtain ⟨word, rest, hword⟩ := exists_firstWord sentinel h
  rw [ofToken_firstWord sentinel hword] at hkey ⊢
  by_cases htype : (trim rest).isEmpty = true
  · rw [if_pos htype]
    exact ofToken_key hkey sentinel
  · obtain ⟨htrimmed, hne, hread⟩ := ColumnType.ofToken_name (trim rest)
    rw [if_neg htype]
    exact (ofToken_typed hkey sentinel htrimmed hne).trans (by rw [hread])

theorem ofToken_between_blanks {pre post : Text} (hpre : Blanks pre) (hpost : Blanks post)
    (token : Text) : ofToken sentinel (pre ++ (token ++ post)) = ofToken sentinel token := by
  rw [← ofToken_trim, trim_blanks_append hpre, trim_append_blanks hpost, ofToken_trim]

structure Spaced (name typeName token : Text) : Prop where
  unblank : ∀ c ∈ name, isBlank c = false
  split : ∃ gap, Blanks gap ∧ gap ≠ [] ∧ token = name ++ (gap ++ typeName)

/-- However a name and a type are spaced, they are read alike. -/
theorem ofToken_spaced {name typeName token token' : Text} (h : Spaced name typeName token)
    (h' : Spaced name typeName token') : ofToken sentinel token = ofToken sentinel token' := by
  obtain ⟨gap, hgap, hne, rfl⟩ := h.split
  obtain ⟨gap', hgap', hne', rfl⟩ := h'.split
  by_cases hname : name = []
  · -- without a name the blanks before the type stand at the end of the token
    rw [hname, List.nil_append, List.nil_append, ← ofToken_trim, trim_blanks_append hgap,
      ← ofToken_trim sentinel (gap' ++ typeName), trim_blanks_append hgap']
  · rw [ofToken_firstWord sentinel (firstWord_before_blanks hname h.unblank hgap hne typeName),
      ofToken_firstWord sentinel (firstWord_before_blanks hname h.unblank hgap' hne' typeName),
      trim_blanks_append hgap, trim_blanks_append hgap']

/-- A mention with a key is read back from what it is written as, and is shown as before. Blanks at
the ends of a token do not count, and neither does how many of them stand before the type. -/
theorem column_mentions_are_normal (sentinel : Text) :
    (∀ token, (ofToken sentinel token).key ≠ [] →
      ofToken sentinel (ofToken sentinel token).written = ofToken sentinel token ∧
      (ofToken sentinel (ofToken sentinel token).written).type =
        (ofToken sentinel token).type) ∧
    (∀ pre token post, Blanks pre → Blanks post →
      ofToken sentinel (pre ++ (token ++ post)) = ofToken sentinel token) ∧
    ∀ name typeName token token', Spaced name typeName token → Spaced name typeName token' →
      ofToken sentinel token = ofToken sentinel token' := by
  refine ⟨?_, ?_, ?_⟩
  · intro token hkey
    have hwritten := ofToken_written sentinel hkey
    exact ⟨hwritten, congrArg ColumnMention.type hwritten⟩
  · exact fun pre token post hpre hpost => ofToken_between_blanks sentinel hpre hpost token
  · exact fun name typeName token token' hspaced hspaced' =>
      ofToken_spaced sentinel hspaced hspaced'

/-- A name in capitals with a type of its own, spaced in two ways. -/
theorem spaced_born_is_normal :
    let token := "\t Born  \u00a0Date Time ".toList
    let mention := ofToken [] token
    mention.key ≠ [] ∧ mention.written = "born Date Time".toList ∧
      ofToken [] mention.written = mention ∧
      ofToken [] token = ofToken [] "Born Date Time".toList := by
  intro token mention
  obtain ⟨hwritten, hends, hspaced⟩ := column_mentions_are_normal []
  have hkey : mention.key ≠ [] := by decide +kernel
  have hblanks : ∀ t : Text, t.all isBlank = true → Blanks t := fun _ => List.all_eq_true.mp
  have hunblank : ∀ c ∈ "Born".toList, isBlank c = false := by
    have hall : "Born".toList.all (!isBlank ·) = true := by decide
    simpa using List.all_eq_true.mp hall
  have htoken : token = "\t ".toList ++ ("Born  \u00a0Date Time".toList ++ " ".toList) := by
    decide
  refine ⟨hkey, by decide +kernel, (hwritten token hkey).1, ?_⟩
  rw [htoken, hends _ _ _ (hblanks _ (by decide)) (hblanks _ (by decide))]
  refine hspaced "Born".toList "Date Time".toList _ _ ⟨hunblank, ?_⟩ ⟨hunblank, ?_⟩
  · exact ⟨"  \u00a0".toList, hblanks _ (by decide), by decide, by decide⟩
  · exact ⟨" ".toList, hblanks _ (by decide), by decide, by decide⟩

end ColumnMention

namespace SortKey

variable {sentinel : Text} {marker : Char}

/-- A sort that was read is written as the key of the token, markers and all. -/
theorem parameter_of_parse? {token : Text} {sort : SortKey}
    (h : parse? sentinel marker token = some sort) :
    sort.parameter marker = (ColumnMention.ofToken sentinel token).key := by
  rw [parse?, Option.ite_none_left_eq_some, Option.some.injEq] at h
  obtain ⟨-, rfl⟩ := h
  cases (ColumnMention.ofToken sentinel token).key with
  | nil => rfl
  | cons c rest =>
    rw [ofKey]
    split
    · rename_i hc
      rw [parameter, hc]
    · rfl

/-- Only the key of a token counts for a sort. -/
theorem parse?_congr {token token' : Text}
    (h : (ColumnMention.ofToken sentinel token).key = (ColumnMention.ofToken sentinel token').key) :
    parse? sentinel marker token = parse? sentinel marker token' := by
  rw [parse?, parse?, h]

/-- What a sort that was read is written as is read as the sort. -/
theorem parse?_parameter_of_parse? (hmarker : isMarker marker = true) {token : Text}
    {sort : SortKey} (h : parse? sentinel marker token = some sort) :
    parse? sentinel marker (sort.parameter marker) = some sort :=
  have hwritable := writable_of_parse? h
  parse?_parameter hwritable.key hmarker hwritable.unmarked sentinel

theorem isKey_marked_replicate (hmarker : isMarker marker = true) {key : Text} (hkey : IsKey key)
    (count : Nat) : IsKey (List.replicate count marker ++ key) := by
  induction count with
  | zero => exact hkey
  | succ count ih =>
    rw [List.replicate_succ, List.cons_append]
    exact isKey_marked hmarker ih.unblank ih.lowercase

/-- A sort that is read from a text is written as the first word of it in lowercase, and is read
again from what is written, and from every text whose first word is the same but for the case of its
letters. Of several markers one is taken off. -/
theorem read_sorts_are_written_back (sentinel : Text) {marker : Char}
    (hmarker : isMarker marker = true) {token : Text} {sort : SortKey}
    (h : parse? sentinel marker token = some sort) :
    parse? sentinel marker (sort.parameter marker) = some sort ∧
    (∃ word rest, FirstWord word rest token ∧ sort.parameter marker = lowercase word) ∧
    (∀ word rest token', FirstWord word rest token' → lowercase word = sort.parameter marker →
      parse? sentinel marker token' = some sort) ∧
    ∀ count, parse? sentinel marker (List.replicate (count + 1) marker ++ sort.parameter marker) =
      some ⟨List.replicate count marker ++ sort.parameter marker, .descending⟩ := by
  have hparameter := parameter_of_parse? h
  have hkey : IsKey (sort.parameter marker) := by
    rw [hparameter]
    apply ColumnMention.isKey_ofToken
    intro hnone
    rw [parse?, hnone] at h
    exact absurd h (by simp [ofKey])
  refine ⟨parse?_parameter_of_parse? hmarker h, ?_, ?_, ?_⟩
  · obtain ⟨word, rest, hword⟩ :=
      ColumnMention.exists_firstWord sentinel (hparameter ▸ hkey.nonempty)
    rw [ColumnMention.ofToken_firstWord sentinel hword] at hparameter
    exact ⟨word, rest, hword, hparameter⟩
  · intro word rest token' hword hlower
    rw [← h]
    apply parse?_congr
    rw [ColumnMention.ofToken_firstWord sentinel hword, ← hparameter]
    exact hlower
  · intro count
    have hmore := isKey_marked_replicate hmarker hkey (count + 1)
    rw [List.replicate_succ, List.cons_append] at hmore ⊢
    rw [parse?_marked hmore, if_neg]
    exact (isKey_marked_replicate hmarker hkey count).nonempty

/-- A text with two markers, capitals and a type asks for what its first word in small letters asks
for, and one marker more makes the sort a descending one of that word. -/
theorem marked_size_is_written_back :
    let sort : SortKey := ⟨"^größe".toList, .descending⟩
    isMarker '^' = true ∧ parse? [] '^' "\t^^GRÖẞE  Num ".toList = some sort ∧
      sort.parameter '^' = "^^größe".toList ∧
      parse? [] '^' (sort.parameter '^') = some sort ∧
      parse? [] '^' "^^^größe".toList = some ⟨"^^größe".toList, .descending⟩ := by
  intro sort
  have hmarker : isMarker '^' = true := by decide +kernel
  have hread : parse? [] '^' "\t^^GRÖẞE  Num ".toList = some sort := by decide +kernel
  obtain ⟨hback, -, -, hmarkers⟩ := read_sorts_are_written_back [] hmarker hread
  exact ⟨hmarker, hread, rfl, hback, hmarkers 0⟩

end SortKey

end WikiPivot
