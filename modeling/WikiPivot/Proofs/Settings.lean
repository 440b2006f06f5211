import WikiPivot.Settings

/-! # Usable settings

The check passes exactly if every name is an identifier and the vocabulary of directives is sound.
-/
namespace WikiPivot

structure DirectiveSettings.Accepted (settings : DirectiveSettings) : Prop where
  sentinel : isSentinel settings.sentinel = true
  marker : isMarker settings.descendingMarker = true
  parameter : settings.sortParameter ≠ []

theorem StoreName.mem_all (name : StoreName) : name ∈ StoreName.all := by
  cases name <;> decide

theorem Settings.check_eq_ok_iff {settings : Settings} :
    settings.check = .ok settings ↔
      (∀ name, isIdentifier (settings.store.get name) = true) ∧ settings.directive.Accepted := by
  unfold Settings.check
  cases hname : StoreName.all.find? fun name => !isIdentifier (settings.store.get name) with
  | some name =>
    have hwrong : isIdentifier (settings.store.get name) = false := by
      simpa using List.find?_some hname
    constructor
    · intro h
      exact absurd h (by simp)
    · rintro ⟨hidentifiers, -⟩
      rw [hidentifiers name] at hwrong
      exact absurd hwrong (by decide)
  | none =>
    have hidentifiers : ∀ name, isIdentifier (settings.store.get name) = true := by
      intro name
      simpa using List.find?_eq_none.mp hname name name.mem_all
    constructor
    · intro h
      simp only at h
      split at h
      · exact absurd h (by simp)
      · split at h
        · exact absurd h (by simp)
        · split at h
          · exact absurd h (by simp)
          · rename_i hsentinel hmarker hparameter
            exact ⟨hidentifiers, by simpa using hsentinel, by simpa using hmarker,
              by simpa using hparameter⟩
    · rintro ⟨-, hsentinel, hmarker, hparameter⟩
      simp [hsentinel, hmarker, hparameter]

theorem Settings.check_default : ({} : Settings).check = .ok {} := by
  refine check_eq_ok_iff.mpr ⟨?_, ⟨by decide +kernel, by decide +kernel, by decide⟩⟩
  intro name
  cases name <;> decide

end WikiPivot
