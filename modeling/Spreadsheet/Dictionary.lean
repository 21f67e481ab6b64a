import Spreadsheet.Text.Order

namespace Spreadsheet

class KeyOrder (κ : Type) where
  lt : κ → κ → Bool
  irrefl : ∀ a, lt a a = false
  trans : ∀ a b c, lt a b = true → lt b c = true → lt a c = true
  connected : ∀ a b, lt a b = false → lt b a = false → a = b

instance : KeyOrder String where
  lt a b := Text.lexOrdering a.toList b.toList == .lt
  irrefl a := by simp [Text.lexOrdering_self]
  trans a b c := by simpa using Text.lexOrdering_trans
  connected a b h h' := by
    rw [Text.lexOrdering_swap] at h'
    have he := @Text.eq_of_lexOrdering a.toList b.toList
    rw [String.toList_inj] at he
    cases hc : Text.lexOrdering a.toList b.toList <;> simp_all

instance : KeyOrder Nat where
  lt a b := a < b
  irrefl a := by simp
  trans a b c := by simpa using Nat.lt_trans
  connected a b := by simpa using fun h h' => Nat.le_antisymm h' h

section Pair

variable {κ μ : Type} [DecidableEq κ] [KeyOrder κ] [KeyOrder μ]

def pairPrecedes (a b : κ × μ) : Bool :=
  KeyOrder.lt a.1 b.1 || (decide (a.1 = b.1) && KeyOrder.lt a.2 b.2)

theorem pairPrecedes_self (a : κ × μ) : pairPrecedes a a = false := by
  simp [pairPrecedes, KeyOrder.irrefl]

theorem pairPrecedes_trans (a b c : κ × μ) (h : pairPrecedes a b = true)
    (h' : pairPrecedes b c = true) : pairPrecedes a c = true := by
  have h₁ := KeyOrder.trans a.1 b.1 c.1
  have h₂ := KeyOrder.trans a.2 b.2 c.2
  simp only [pairPrecedes, Bool.or_eq_true, Bool.and_eq_true, decide_eq_true_eq] at *
  rcases h with h | ⟨he, h⟩ <;> rcases h' with h' | ⟨he', h'⟩ <;> simp_all

theorem eq_of_not_pairPrecedes (a b : κ × μ) (h : pairPrecedes a b = false)
    (h' : pairPrecedes b a = false) : a = b := by
  have h₁ := KeyOrder.connected a.1 b.1
  have h₂ := KeyOrder.connected a.2 b.2
  simp only [pairPrecedes, Bool.or_eq_false_iff, Bool.and_eq_false_iff, decide_eq_false_iff_not]
    at h h'
  have he := h₁ h.1 h'.1
  simp only [he, not_true_eq_false, false_or] at h h'
  exact Prod.ext he (h₂ h.2 h'.2)

instance : KeyOrder (κ × μ) where
  lt := pairPrecedes
  irrefl := pairPrecedes_self
  trans := pairPrecedes_trans
  connected := eq_of_not_pairPrecedes

end Pair

/-- Maps kept in the order of their keys, so that two maps with the same entries are equal. -/
structure Dictionary (κ α : Type) [KeyOrder κ] where
  entries : List (κ × α)
  sorted : entries.Pairwise fun a b => KeyOrder.lt a.1 b.1 = true

namespace Dictionary

variable {κ α : Type} [KeyOrder κ]

def insertEntry (k : κ) (v : α) : List (κ × α) → List (κ × α)
  | [] => [(k, v)]
  | e :: es =>
    if KeyOrder.lt k e.1 then (k, v) :: e :: es
    else if KeyOrder.lt e.1 k then e :: insertEntry k v es
    else (k, v) :: es

theorem mem_insertEntry {k : κ} {v : α} {es : List (κ × α)} {e : κ × α}
    (h : e ∈ insertEntry k v es) : e = (k, v) ∨ e ∈ es := by
  induction es with
  | nil => simpa [insertEntry] using h
  | cons f es ih => grind [insertEntry]

theorem sorted_insertEntry (k : κ) (v : α) {es : List (κ × α)}
    (h : es.Pairwise fun a b => KeyOrder.lt a.1 b.1 = true) :
    (insertEntry k v es).Pairwise fun a b => KeyOrder.lt a.1 b.1 = true := by
  induction es with
  | nil => simp [insertEntry]
  | cons e es ih =>
    have ht := fun b => KeyOrder.trans k e.1 b
    have hc := KeyOrder.connected k e.1
    rw [List.pairwise_cons] at h
    unfold insertEntry
    split
    · grind [List.pairwise_cons]
    · split
      · have := fun f (h : f ∈ insertEntry k v es) => mem_insertEntry h
        grind [List.pairwise_cons]
      · grind [List.pairwise_cons]

def empty : Dictionary κ α := ⟨[], .nil⟩

instance : Inhabited (Dictionary κ α) := ⟨empty⟩

def insert (d : Dictionary κ α) (k : κ) (v : α) : Dictionary κ α :=
  ⟨insertEntry k v d.entries, sorted_insertEntry k v d.sorted⟩

variable [DecidableEq κ]

instance [DecidableEq α] : DecidableEq (Dictionary κ α) := fun d e =>
  decidable_of_iff (d.entries = e.entries) (by cases d; cases e; simp)

def get? (d : Dictionary κ α) (k : κ) : Option α :=
  d.entries.lookup k

def contains (d : Dictionary κ α) (k : κ) : Bool :=
  (d.get? k).isSome

def erase (d : Dictionary κ α) (k : κ) : Dictionary κ α :=
  ⟨d.entries.filter (·.1 ≠ k), d.sorted.filter _⟩

/-- Move the value of a key to another key, replacing what stands there; a key without a value
changes nothing. -/
def rename (d : Dictionary κ α) (old new : κ) : Dictionary κ α :=
  match d.get? old with
  | some v => (d.erase old).insert new v
  | none => d

def ofList (es : List (κ × α)) : Dictionary κ α :=
  es.foldl (fun d e => d.insert e.1 e.2) empty

def keys (d : Dictionary κ α) : List κ :=
  d.entries.map (·.1)

end Dictionary

end Spreadsheet
