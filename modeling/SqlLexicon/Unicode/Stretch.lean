/-!
# Stretches of code points

A character property is listed as stretches of code points. In the blocks where upper-case and
lower-case letters alternate, a stretch takes every second code point.
-/

namespace SqlLexicon.Unicode

/-- The code points from `first` to `last`, `step` apart. -/
structure Stretch where
  first : Nat
  last : Nat
  step : Nat
deriving DecidableEq, Repr

namespace Stretch

def contains (s : Stretch) (n : Nat) : Bool :=
  s.first ≤ n && n ≤ s.last && (n - s.first) % s.step == 0

theorem contains_iff {s : Stretch} {n : Nat} :
    s.contains n = true ↔ s.first ≤ n ∧ n ≤ s.last ∧ s.step ∣ n - s.first := by
  simp [contains, Nat.dvd_iff_mod_eq_zero, and_assoc]

end Stretch

def listed (table : List Stretch) (c : Char) : Bool :=
  table.any (·.contains c.toNat)

theorem listed_iff {table : List Stretch} {c : Char} :
    listed table c = true ↔ ∃ stretch ∈ table, stretch.contains c.toNat = true := by
  rw [listed, List.any_eq_true]

/-- A character of a stretch with every code point is listed where the stretch is. -/
theorem listed_of_mem {table : List Stretch} {first last : Nat} {c : Char}
    (hmem : ⟨first, last, 1⟩ ∈ table) (h : first ≤ c.toNat ∧ c.toNat ≤ last) :
    listed table c = true :=
  listed_iff.mpr ⟨_, hmem, Stretch.contains_iff.mpr ⟨h.1, h.2, Nat.one_dvd _⟩⟩

/-- A character is not listed if it lies between two bounds that no stretch comes between. -/
theorem not_listed_of_outside {table : List Stretch} {first last : Nat} {c : Char}
    (houtside : (table.all fun s => s.last.blt first || last.blt s.first) = true)
    (h : first ≤ c.toNat ∧ c.toNat ≤ last) : listed table c = false := by
  rw [← Bool.not_eq_true, listed_iff]
  rintro ⟨s, hs, hcontains⟩
  obtain ⟨hfirst, hlast, -⟩ := Stretch.contains_iff.mp hcontains
  have hbounds : s.last < first ∨ last < s.first := by
    simpa using List.all_eq_true.mp houtside s hs
  omega

end SqlLexicon.Unicode
