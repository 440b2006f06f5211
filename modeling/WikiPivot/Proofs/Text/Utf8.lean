import WikiPivot.Text.Utf8

/-! # Reading UTF-8 back

The octets of a text are read back as the text. The first octet of a character says how many are
owed, and the ranges that are closed to the second one hold what no character needs: longer forms of
shorter characters, surrogates, and numbers beyond the last character.
-/
namespace WikiPivot.Text

theorem toNat_octet {n : Nat} (h : n < 256) : (UInt8.ofNat n).toNat = n :=
  UInt8.toNat_ofNat_of_lt h

section

variable {n m k l : Nat} (rest : List UInt8)

theorem readOctets_first {state : Begun} (hn : n < 256) (h : firstOctet n = .begun state) :
    readOctets none (UInt8.ofNat n :: rest) = readOctets (some state) rest := by
  rw [readOctets, toNat_octet hn, h]

/-- An octet that is not the last one puts six more bits behind those read so far. -/
theorem readOctets_middle (owed : Nat) {least greatest : Nat} (hm : m < 64)
    (h : least ≤ m + 128 ∧ m + 128 ≤ greatest) :
    readOctets (some ⟨owed + 2, least, greatest, n⟩) (UInt8.ofNat (m + 128) :: rest) =
      readOctets (some ⟨owed + 1, 0x80, 0xBF, n * 64 + m⟩) rest := by
  have hnext : Begun.next? ⟨owed + 2, least, greatest, n⟩ (m + 128) =
      some (.begun ⟨owed + 1, 0x80, 0xBF, n * 64 + m⟩) := by
    rw [Begun.next?, if_pos h, Nat.add_sub_cancel]
    exact congrArg some (if_neg (by simp))
  rw [readOctets, toNat_octet (by omega), hnext]

theorem readOctets_last {least greatest : Nat} (hm : m < 64)
    (h : least ≤ m + 128 ∧ m + 128 ≤ greatest) :
    readOctets (some ⟨1, least, greatest, n⟩) (UInt8.ofNat (m + 128) :: rest) =
      Char.ofNat (n * 64 + m) :: readOctets none rest := by
  have hnext : Begun.next? ⟨1, least, greatest, n⟩ (m + 128) =
      some (.done (Char.ofNat (n * 64 + m))) := by
    rw [Begun.next?, if_pos h, Nat.add_sub_cancel]
    exact congrArg some (if_pos rfl)
  rw [readOctets, toNat_octet (by omega), hnext]

theorem tail_within (hm : m < 64) : 0x80 ≤ m + 128 ∧ m + 128 ≤ 0xBF := by omega

/-- A first octet of three lets the six bits follow that stand neither for a shorter character nor
for a surrogate. -/
theorem firstOctet_of_three (hn : n < 16) (hm : m < 64) (hlong : n = 0 → 32 ≤ m)
    (hscalar : n = 13 → m < 32) :
    ∃ least greatest, firstOctet (n + 224) = .begun ⟨2, least, greatest, n⟩ ∧
      least ≤ m + 128 ∧ m + 128 ≤ greatest := by
  by_cases hzero : n = 0
  · subst hzero
    exact ⟨0xA0, 0xBF, rfl, by omega, by omega⟩
  by_cases hsurrogate : n = 13
  · subst hsurrogate
    exact ⟨0x80, 0x9F, rfl, by omega, by omega⟩
  refine ⟨0x80, 0xBF, ?_, tail_within hm⟩
  unfold firstOctet
  rw [if_neg (by omega), if_neg (by omega), if_neg (by omega), if_neg (by omega),
    if_neg (by omega), if_pos (by omega), Nat.add_sub_cancel]

/-- A first octet of four lets the six bits follow that stand neither for a shorter character nor
for a number beyond the last one. -/
theorem firstOctet_of_four (hn : n < 5) (hm : m < 64) (hlong : n = 0 → 16 ≤ m)
    (hscalar : n = 4 → m < 16) :
    ∃ least greatest, firstOctet (n + 240) = .begun ⟨3, least, greatest, n⟩ ∧
      least ≤ m + 128 ∧ m + 128 ≤ greatest := by
  by_cases hzero : n = 0
  · subst hzero
    exact ⟨0x90, 0xBF, rfl, by omega, by omega⟩
  by_cases hlast : n = 4
  · subst hlast
    exact ⟨0x80, 0x8F, rfl, by omega, by omega⟩
  refine ⟨0x80, 0xBF, ?_, tail_within hm⟩
  unfold firstOctet
  rw [if_neg (by omega), if_neg (by omega), if_neg (by omega), if_neg (by omega),
    if_neg (by omega), if_neg (by omega), if_neg (by omega), if_pos (by omega),
    Nat.add_sub_cancel]

theorem readOctets_one (hn : n < 128) :
    readOctets none (UInt8.ofNat n :: rest) = Char.ofNat n :: readOctets none rest := by
  have hfirst : firstOctet n = .done (Char.ofNat n) := if_pos hn
  rw [readOctets, toNat_octet (by omega), hfirst]

theorem readOctets_two (hn : 2 ≤ n ∧ n < 32) (hm : m < 64) :
    readOctets none (UInt8.ofNat (n + 192) :: UInt8.ofNat (m + 128) :: rest) =
      Char.ofNat (n * 64 + m) :: readOctets none rest := by
  have hfirst : firstOctet (n + 192) = .begun ⟨1, 0x80, 0xBF, n⟩ := by
    unfold firstOctet
    rw [if_neg (by omega), if_neg (by omega), if_pos (by omega), Nat.add_sub_cancel]
  rw [readOctets_first _ (by omega) hfirst, readOctets_last _ hm (tail_within hm)]

theorem readOctets_three (hn : n < 16) (hm : m < 64) (hk : k < 64) (hlong : n = 0 → 32 ≤ m)
    (hscalar : n = 13 → m < 32) :
    readOctets none
        (UInt8.ofNat (n + 224) :: UInt8.ofNat (m + 128) :: UInt8.ofNat (k + 128) :: rest) =
      Char.ofNat ((n * 64 + m) * 64 + k) :: readOctets none rest := by
  obtain ⟨least, greatest, hfirst, hwithin⟩ := firstOctet_of_three hn hm hlong hscalar
  rw [readOctets_first _ (by omega) hfirst, readOctets_middle _ 0 hm hwithin,
    readOctets_last _ hk (tail_within hk)]

theorem readOctets_four (hn : n < 5) (hm : m < 64) (hk : k < 64) (hl : l < 64)
    (hlong : n = 0 → 16 ≤ m) (hscalar : n = 4 → m < 16) :
    readOctets none (UInt8.ofNat (n + 240) :: UInt8.ofNat (m + 128) :: UInt8.ofNat (k + 128) ::
        UInt8.ofNat (l + 128) :: rest) =
      Char.ofNat (((n * 64 + m) * 64 + k) * 64 + l) :: readOctets none rest := by
  obtain ⟨least, greatest, hfirst, hwithin⟩ := firstOctet_of_four hn hm hlong hscalar
  rw [readOctets_first _ (by omega) hfirst, readOctets_middle _ 1 hm hwithin,
    readOctets_middle _ 0 hk (tail_within hk), readOctets_last _ hl (tail_within hl)]

end

theorem readOctets_utf8EncodeChar (c : Char) (rest : List UInt8) :
    readOctets none (String.utf8EncodeChar c ++ rest) = c :: readOctets none rest := by
  obtain ⟨v, hv⟩ : ∃ v, v = c.toNat := ⟨_, rfl⟩
  have hvalid : v < 0xD800 ∨ 0xDFFF < v ∧ v < 0x110000 := hv ▸ c.valid
  have hback : Char.ofNat v = c := hv ▸ Char.ofNat_toNat c
  have hoctets : String.utf8EncodeChar c =
      if v ≤ 127 then [UInt8.ofNat v]
      else if v ≤ 2047 then [UInt8.ofNat (v / 64 % 32 + 192), UInt8.ofNat (v % 64 + 128)]
      else if v ≤ 65535 then
        [UInt8.ofNat (v / 4096 % 16 + 224), UInt8.ofNat (v / 64 % 64 + 128),
          UInt8.ofNat (v % 64 + 128)]
      else
        [UInt8.ofNat (v / 262144 % 8 + 240), UInt8.ofNat (v / 4096 % 64 + 128),
          UInt8.ofNat (v / 64 % 64 + 128), UInt8.ofNat (v % 64 + 128)] := by
    subst hv
    rfl
  -- the bits of each form add up to the number of the character
  rw [hoctets, ← hback]
  by_cases hone : v ≤ 127
  · rw [if_pos hone]
    exact readOctets_one rest (by omega)
  rw [if_neg hone]
  by_cases htwo : v ≤ 2047
  · have hbits : v / 64 % 32 * 64 + v % 64 = v := by omega
    have hread := readOctets_two (n := v / 64 % 32) (m := v % 64) rest (by omega) (by omega)
    rw [hbits] at hread
    rw [if_pos htwo]
    exact hread
  rw [if_neg htwo]
  by_cases hthree : v ≤ 65535
  · have hbits : (v / 4096 % 16 * 64 + v / 64 % 64) * 64 + v % 64 = v := by omega
    have hread := readOctets_three (n := v / 4096 % 16) (m := v / 64 % 64) (k := v % 64) rest
      (by omega) (by omega) (by omega) (by omega) (by omega)
    rw [hbits] at hread
    rw [if_pos hthree]
    exact hread
  · have hbits :
        ((v / 262144 % 8 * 64 + v / 4096 % 64) * 64 + v / 64 % 64) * 64 + v % 64 = v := by omega
    have hread := readOctets_four (n := v / 262144 % 8) (m := v / 4096 % 64) (k := v / 64 % 64)
      (l := v % 64) rest (by omega) (by omega) (by omega) (by omega) (by omega) (by omega)
    rw [hbits] at hread
    rw [if_neg hthree]
    exact hread

/-- The octets of a text are read back as the text. -/
theorem ofOctets_utf8 (t : Text) : ofOctets (utf8 t) = t := by
  unfold ofOctets utf8
  induction t with
  | nil => rfl
  | cons c rest ih => rw [List.flatMap_cons, readOctets_utf8EncodeChar, ih]

end WikiPivot.Text
