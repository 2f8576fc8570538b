import DeskConfig.Table
import Mathlib.Data.List.Sort

/-!
Tables by their look-ups. A table is no more than what it answers: two tables that answer
every look-up alike are equal, since their entries stand in the same fixed order. So what
is said of adding and of keeping entries is said look-up by look-up.
-/

namespace DeskConfig.Table

variable {κ ν : Type} [Ranked κ] {s t : Table κ ν} {k : κ} {v : ν}

/-- An entry is what is found under its key. -/
theorem get?_eq_some_iff : t.get? k = some v ↔ (k, v) ∈ t.entries := by
  have hfirst : ∀ es : List (κ × ν), Ascending es →
      ((es.find? (rank ·.1 == rank k)).map (·.2) = some v ↔ (k, v) ∈ es) := by
    intro es hes
    induction es with
    | nil => simp
    | cons e es ih =>
      obtain ⟨he, hes⟩ := List.pairwise_cons.mp hes
      by_cases hk : rank e.1 = rank k
      · have hkey : k = e.1 := (Ranked.rank_injective hk).symm
        subst hkey
        have hlater : (e.1, v) ∉ es := fun hmem =>
          Nat.lt_irrefl (rank e.1) (he (e.1, v) hmem)
        simp [hlater, Prod.ext_iff, eq_comm]
      · have hne : (k, v) ≠ e := fun h => hk (h ▸ rfl)
        simpa [hk, hne] using ih hes
  exact hfirst t.entries t.ascending

/-- Entries in order are known by what is found among them. -/
theorem ext_get? (h : ∀ k, s.get? k = t.get? k) : s = t := by
  have hirrefl : Std.Irrefl fun a b : κ × ν => rank a.1 < rank b.1 :=
    ⟨fun a => Nat.lt_irrefl (rank a.1)⟩
  have hantisymm : Std.Antisymm fun a b : κ × ν => rank a.1 < rank b.1 :=
    ⟨fun _ _ hab hba => absurd hab (Nat.lt_asymm hba)⟩
  refine ext (s.ascending.eq_of_mem_iff t.ascending ?_)
  rintro ⟨k, v⟩
  rw [← get?_eq_some_iff, ← get?_eq_some_iff, h]

theorem get?_filterKeys (t : Table κ ν) (keep : κ → Bool) (k : κ) :
    (t.filterKeys keep).get? k = if keep k then t.get? k else none := by
  have hkey : ∀ e : κ × ν,
      (keep e.1 && (rank e.1 == rank k)) = (keep k && (rank e.1 == rank k)) := by
    intro e
    cases he : rank e.1 == rank k with
    | false => simp
    | true => rw [Ranked.rank_injective (eq_of_beq he)]
  simp only [get?, filterKeys, List.find?_filter, Bool.decide_and, Bool.decide_eq_true, hkey]
  cases keep k <;> simp

theorem get?_insert (t : Table κ ν) (k : κ) (v : ν) (j : κ) [Decidable (j = k)] :
    (t.insert k v).get? j = if j = k then some v else t.get? j := by
  split
  · next h => rw [h, get?_insert_self]
  · next h => rw [get?_insert_of_ne h]

/-- An entry that is kept may as well be added afterwards. -/
theorem filterKeys_insert_of_keep (t : Table κ ν) {keep : κ → Bool} (h : keep k = true) (v : ν) :
    (t.insert k v).filterKeys keep = (t.filterKeys keep).insert k v := by
  classical
  refine ext_get? fun j => ?_
  simp only [get?_filterKeys, get?_insert]
  by_cases hj : j = k
  · simp [hj, h]
  · simp [hj]

theorem filterKeys_insert_of_drop (t : Table κ ν) {keep : κ → Bool} (h : keep k = false) (v : ν) :
    (t.insert k v).filterKeys keep = t.filterKeys keep := by
  classical
  refine ext_get? fun j => ?_
  simp only [get?_filterKeys, get?_insert]
  by_cases hj : j = k
  · simp [hj, h]
  · simp [hj]

end DeskConfig.Table
