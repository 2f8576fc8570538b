/-!
Finite tables with their keys in a fixed order. The entries are kept strictly
ascending, so two tables that answer every look-up alike are equal.
-/

namespace DeskConfig

/-- Keys are ordered by a number that tells them apart. -/
class Ranked (κ : Type) where
  rank : κ → Nat
  rank_injective : ∀ {a b : κ}, rank a = rank b → a = b

export Ranked (rank)

instance : Ranked Nat where
  rank n := n
  rank_injective h := h

abbrev Ascending [Ranked κ] (entries : List (κ × ν)) : Prop :=
  entries.Pairwise fun a b => rank a.1 < rank b.1

structure Table (κ ν : Type) [Ranked κ] where
  entries : List (κ × ν)
  ascending : Ascending entries

namespace Table

variable {κ ν : Type} [Ranked κ]

theorem ext {s t : Table κ ν} (h : s.entries = t.entries) : s = t := by
  cases s; cases t; subst h; rfl

instance [DecidableEq κ] [DecidableEq ν] : DecidableEq (Table κ ν) := fun s t =>
  if h : s.entries = t.entries then isTrue (ext h) else isFalse fun e => h (e ▸ rfl)

def empty : Table κ ν := ⟨[], .nil⟩

instance : Inhabited (Table κ ν) := ⟨empty⟩

def insertEntry (k : κ) (v : ν) : List (κ × ν) → List (κ × ν)
  | [] => [(k, v)]
  | e :: es =>
    if rank k < rank e.1 then (k, v) :: e :: es
    else if rank e.1 < rank k then e :: insertEntry k v es
    else (k, v) :: es

theorem fst_mem_insertEntry {k : κ} {v : ν} {es : List (κ × ν)} {e : κ × ν}
    (h : e ∈ insertEntry k v es) : e = (k, v) ∨ e ∈ es := by
  induction es with
  | nil => simpa [insertEntry] using h
  | cons d ds ih =>
    rw [insertEntry] at h
    split at h
    · simpa using h
    · split at h
      · rcases List.mem_cons.mp h with h | h
        · exact .inr (h ▸ List.mem_cons_self ..)
        · exact (ih h).imp_right (List.mem_cons_of_mem _)
      · rcases List.mem_cons.mp h with h | h
        · exact .inl h
        · exact .inr (List.mem_cons_of_mem _ h)

theorem ascending_insertEntry (k : κ) (v : ν) {es : List (κ × ν)} (h : Ascending es) :
    Ascending (insertEntry k v es) := by
  induction es with
  | nil => exact List.pairwise_singleton _ _
  | cons d ds ih =>
    obtain ⟨hd, hds⟩ := List.pairwise_cons.mp h
    rw [insertEntry]
    split
    · next hlt =>
      refine List.pairwise_cons.mpr ⟨?_, h⟩
      intro e he
      rcases List.mem_cons.mp he with rfl | he
      · exact hlt
      · exact Nat.lt_trans hlt (hd e he)
    · split
      · next hlt =>
        refine List.pairwise_cons.mpr ⟨?_, ih hds⟩
        intro e he
        rcases fst_mem_insertEntry he with rfl | he
        · exact hlt
        · exact hd e he
      · next hle hge =>
        refine List.pairwise_cons.mpr ⟨?_, hds⟩
        intro e he
        have := hd e he
        show rank k < rank e.1
        omega

/-- Adds an entry in the place of any other with the same key. -/
def insert (t : Table κ ν) (k : κ) (v : ν) : Table κ ν :=
  ⟨insertEntry k v t.entries, ascending_insertEntry k v t.ascending⟩

def get? (t : Table κ ν) (k : κ) : Option ν :=
  (t.entries.find? (rank ·.1 == rank k)).map (·.2)

/-- Keeps the entries whose key passes the test. -/
def filterKeys (t : Table κ ν) (keep : κ → Bool) : Table κ ν :=
  ⟨t.entries.filter (keep ·.1), t.ascending.filter _⟩

theorem find?_insertEntry_self (k : κ) (v : ν) (es : List (κ × ν)) :
    (insertEntry k v es).find? (rank ·.1 == rank k) = some (k, v) := by
  induction es with
  | nil => simp [insertEntry]
  | cons d ds ih =>
    rw [insertEntry]
    split
    · simp
    · split
      · next hlt =>
        have : (rank d.1 == rank k) = false := by simpa using Nat.ne_of_lt hlt
        simpa [this] using ih
      · simp

theorem find?_insertEntry_of_ne {k j : κ} (hne : j ≠ k) (v : ν) (es : List (κ × ν)) :
    (insertEntry k v es).find? (rank ·.1 == rank j) = es.find? (rank ·.1 == rank j) := by
  have hkj : (rank k == rank j) = false := by
    simpa using fun h => hne (Ranked.rank_injective h).symm
  induction es with
  | nil => simp [insertEntry, hkj]
  | cons d ds ih =>
    rw [insertEntry]
    split
    · simp [hkj]
    · split
      · cases h : rank d.1 == rank j <;> simp [h, ih]
      · next hle hge =>
        have hd : (rank d.1 == rank j) = false := by
          rw [show rank d.1 = rank k by omega]; exact hkj
        simp [hkj, hd]

@[simp] theorem get?_insert_self (t : Table κ ν) (k : κ) (v : ν) :
    (t.insert k v).get? k = some v := by
  simp [get?, insert, find?_insertEntry_self]

theorem get?_insert_of_ne {j k : κ} (hne : j ≠ k) (t : Table κ ν) (v : ν) :
    (t.insert k v).get? j = t.get? j := by
  simp [get?, insert, find?_insertEntry_of_ne hne]

end Table

end DeskConfig
