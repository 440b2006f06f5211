import WikiPivot.Text.Percent
import WikiPivot.Proofs.Text.Utf8

/-! # Percent-encoding read back

Text that is percent-encoded consists of unreserved characters and percent signs, and it is read
back as the text. A reader of addresses takes every octet, a zero too.
-/
namespace WikiPivot.Text

def percentRead : Text → List UInt8
  | [] => []
  | '%' :: a :: b :: rest =>
    match hexValue? a, hexValue? b with
    | some high, some low => UInt8.ofNat (16 * high + low) :: percentRead rest
    | _, _ => UInt8.ofNat 37 :: percentRead (a :: b :: rest)
  | c :: rest => utf8 [c] ++ percentRead rest

def percentText (t : Text) : Text := ofOctets (percentRead t)

theorem hexDigit_spec : ∀ n < 16, hexValue? (hexDigit n) = some n ∧ isUnreserved (hexDigit n) := by
  decide

theorem unreserved_octet : ∀ n < 256, isUnreserved (Char.ofNat n) = true →
    Char.ofNat n ≠ '%' ∧ utf8 [Char.ofNat n] = [UInt8.ofNat n] := by
  decide +kernel

theorem percentRead_of_ne {c : Char} (h : c ≠ '%') (rest : Text) :
    percentRead (c :: rest) = utf8 [c] ++ percentRead rest := by
  rw [percentRead]
  rintro _ _ _ rfl
  exact absurd rfl h

theorem percentOctet_eq (b : UInt8) :
    percentOctet b =
      if isUnreserved (Char.ofNat b.toNat) then [Char.ofNat b.toNat]
      else ['%', hexDigit (b.toNat / 16), hexDigit (b.toNat % 16)] := rfl

theorem percentRead_percentOctet (b : UInt8) (rest : Text) :
    percentRead (percentOctet b ++ rest) = b :: percentRead rest := by
  have hb : b.toNat < 256 := b.toNat_lt
  rw [percentOctet_eq]
  by_cases hunreserved : isUnreserved (Char.ofNat b.toNat) = true
  · obtain ⟨hne, hoctet⟩ := unreserved_octet b.toNat hb hunreserved
    rw [if_pos hunreserved, List.singleton_append, percentRead_of_ne hne, hoctet, UInt8.ofNat_toNat]
    rfl
  · have hhigh := (hexDigit_spec (b.toNat / 16) (by omega)).1
    have hlow := (hexDigit_spec (b.toNat % 16) (by omega)).1
    rw [if_neg hunreserved]
    simp only [List.cons_append, List.nil_append, percentRead, hhigh, hlow]
    rw [Nat.div_add_mod, UInt8.ofNat_toNat]

theorem percentRead_percentEncode (t : Text) : percentRead (percentEncode t) = utf8 t := by
  unfold percentEncode
  induction utf8 t with
  | nil => rfl
  | cons b rest ih => rw [List.flatMap_cons, percentRead_percentOctet, ih]

theorem percentText_percentEncode (t : Text) : percentText (percentEncode t) = t := by
  rw [percentText, percentRead_percentEncode, ofOctets_utf8]

theorem unreserved_or_percent_of_mem {c : Char} {t : Text} (h : c ∈ percentEncode t) :
    isUnreserved c = true ∨ c = '%' := by
  obtain ⟨b, -, hc⟩ := List.mem_flatMap.mp h
  have hb : b.toNat < 256 := b.toNat_lt
  rw [percentOctet_eq] at hc
  by_cases hunreserved : isUnreserved (Char.ofNat b.toNat) = true
  · rw [if_pos hunreserved] at hc
    rw [List.mem_singleton.mp hc]
    exact Or.inl hunreserved
  · rw [if_neg hunreserved] at hc
    simp only [List.mem_cons, List.not_mem_nil, or_false] at hc
    rcases hc with rfl | rfl | rfl
    · exact Or.inr rfl
    · exact Or.inl (hexDigit_spec _ (by omega)).2
    · exact Or.inl (hexDigit_spec _ (by omega)).2

theorem equals_not_mem_percentEncode (t : Text) : '=' ∉ percentEncode t := by
  intro h
  rcases unreserved_or_percent_of_mem h with hc | hc
  · exact absurd hc (by decide)
  · exact absurd hc (by decide)

end WikiPivot.Text
