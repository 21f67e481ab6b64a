import Mathlib
import Spreadsheet.Dictionary

namespace Spreadsheet

namespace KeyOrder

variable {κ : Type} [KeyOrder κ] {a b c : κ}

theorem asymm (h : lt a b = true) : lt b a = false := by
  by_contra h'
  rw [Bool.not_eq_false] at h'
  have hself := trans a b a h h'
  rw [irrefl] at hself
  cases hself

theorem ne_of_lt (h : lt a b = true) : a ≠ b := by
  rintro rfl
  rw [irrefl] at h
  cases h

theorem not_lt_trans (h : (!lt b a) = true) (h' : (!lt c b) = true) : (!lt c a) = true := by
  rw [Bool.not_eq_true'] at *
  by_contra hlt
  rw [Bool.not_eq_false] at hlt
  cases hab : lt a b with
  | true =>
    rw [trans c a b hlt hab] at h'
    cases h'
  | false =>
    rw [connected a b hab h, h'] at hlt
    cases hlt

theorem not_lt_total (a b : κ) : (!lt b a || !lt a b) = true := by
  cases h : lt b a with
  | false => rfl
  | true => rw [asymm h, Bool.not_false, Bool.or_true]

end KeyOrder

namespace Dictionary

variable {κ α : Type} [KeyOrder κ]

theorem ext_entries {d e : Dictionary κ α} (h : d.entries = e.entries) : d = e := by
  cases d
  cases e
  congr

theorem entries_insert (d : Dictionary κ α) (k : κ) (v : α) :
    (d.insert k v).entries = insertEntry k v d.entries :=
  rfl

theorem eq_of_perm_of_sorted {es fs : List (κ × α)} (h : es.Perm fs)
    (hes : es.Pairwise fun a b => KeyOrder.lt a.1 b.1 = true)
    (hfs : fs.Pairwise fun a b => KeyOrder.lt a.1 b.1 = true) : es = fs := by
  apply List.Perm.eq_of_pairwise _ hes hfs h
  intro p q _ _ hlt hlt'
  rw [KeyOrder.asymm hlt] at hlt'
  cases hlt'

/-- Whatever the order in which the entries are listed, sorting them by their keys gives the
entries. -/
theorem mergeSort_of_perm_entries {d : Dictionary κ α} {listing : List (κ × α)}
    (h : listing.Perm d.entries) :
    listing.mergeSort (fun a b => !KeyOrder.lt b.1 a.1) = d.entries := by
  have hperm := (List.mergeSort_perm listing fun a b => !KeyOrder.lt b.1 a.1).trans h
  apply eq_of_perm_of_sorted hperm _ d.sorted
  have hne : (listing.mergeSort fun a b => !KeyOrder.lt b.1 a.1).Pairwise (·.1 ≠ ·.1) :=
    (hperm.pairwise_iff Ne.symm).mpr (d.sorted.imp KeyOrder.ne_of_lt)
  have htrans := fun a b c : κ × α => KeyOrder.not_lt_trans (a := a.1) (b := b.1) (c := c.1)
  have htotal := fun a b : κ × α => KeyOrder.not_lt_total a.1 b.1
  have hsorted := List.pairwise_mergeSort htrans htotal listing
  -- Keys that differ are in the strict order.
  refine (hsorted.and hne).imp ?_
  rintro p q ⟨hle, hne⟩
  rw [Bool.not_eq_true'] at hle
  by_contra hlt
  exact hne (KeyOrder.connected _ _ (by simpa using hlt) hle)

theorem insertEntry_eq_append {k : κ} {v : α} {es : List (κ × α)}
    (h : ∀ e ∈ es, KeyOrder.lt e.1 k = true) : insertEntry k v es = es ++ [(k, v)] := by
  induction es with
  | nil => rfl
  | cons e es ih =>
    have hlt := h e List.mem_cons_self
    have hnot : ¬ KeyOrder.lt k e.1 = true := by simp [KeyOrder.asymm hlt]
    rw [insertEntry, if_neg hnot, if_pos hlt, ih fun f hf => h f (List.mem_cons_of_mem e hf),
      List.cons_append]

theorem ofList_append_singleton (es : List (κ × α)) (e : κ × α) :
    ofList (es ++ [e]) = (ofList es).insert e.1 e.2 := by
  rw [ofList, List.foldl_concat, ofList]

theorem entries_ofList {es : List (κ × α)}
    (h : es.Pairwise fun a b => KeyOrder.lt a.1 b.1 = true) : (ofList es).entries = es := by
  induction es using List.reverseRecOn with
  | nil => rfl
  | append_singleton es e ih =>
    rw [List.pairwise_append] at h
    have hlast : ∀ f ∈ es, KeyOrder.lt f.1 e.1 = true := fun f hf =>
      h.2.2 f hf e (List.mem_singleton_self e)
    rw [ofList_append_singleton, entries_insert, ih h.1, insertEntry_eq_append hlast]

theorem ofList_entries (d : Dictionary κ α) : ofList d.entries = d :=
  ext_entries (entries_ofList d.sorted)

theorem mem_map_fst_insertEntry {k k' : κ} {v : α} {es : List (κ × α)} :
    k' ∈ (insertEntry k v es).map (·.1) ↔ k' = k ∨ k' ∈ es.map (·.1) := by
  induction es with
  | nil => simp [insertEntry]
  | cons e es ih =>
    have hc := KeyOrder.connected k e.1
    unfold insertEntry
    split
    · simp
    · split
      · simp only [List.map_cons, List.mem_cons, ih]
        tauto
      · have he : k = e.1 := by simp_all
        simp [he]

theorem mem_keys_insert {d : Dictionary κ α} {k k' : κ} {v : α} :
    k' ∈ (d.insert k v).keys ↔ k' = k ∨ k' ∈ d.keys :=
  mem_map_fst_insertEntry

@[simp] theorem keys_empty : (empty : Dictionary κ α).keys = [] :=
  rfl

variable [DecidableEq κ]

theorem mem_keys_erase {d : Dictionary κ α} {k k' : κ} :
    k' ∈ (d.erase k).keys ↔ k' ∈ d.keys ∧ k' ≠ k := by
  simp only [keys, erase, List.mem_map, List.mem_filter, decide_eq_true_eq]
  constructor
  · rintro ⟨e, ⟨he, hk⟩, rfl⟩
    exact ⟨⟨e, he, rfl⟩, hk⟩
  · rintro ⟨⟨e, he, rfl⟩, hk⟩
    exact ⟨e, ⟨he, hk⟩, rfl⟩

theorem get?_eq_some_iff {d : Dictionary κ α} {k : κ} {v : α} :
    d.get? k = some v ↔ (k, v) ∈ d.entries := by
  rw [get?, List.lookup_eq_some_iff]
  constructor
  · rintro ⟨es, es', he, -⟩
    rw [he]
    exact List.mem_append_right es List.mem_cons_self
  · intro h
    obtain ⟨es, es', he⟩ := List.append_of_mem h
    refine ⟨es, es', he, fun e hm => ?_⟩
    have hsorted := d.sorted
    rw [he, List.pairwise_append] at hsorted
    have hlt := hsorted.2.2 e hm (k, v) List.mem_cons_self
    simpa using (KeyOrder.ne_of_lt hlt).symm

/-- Maps with the same values are equal. -/
theorem ext_get? {d e : Dictionary κ α} (h : ∀ k, d.get? k = e.get? k) : d = e := by
  have hmem : ∀ p, p ∈ d.entries ↔ p ∈ e.entries := by
    rintro ⟨k, v⟩
    rw [← get?_eq_some_iff, ← get?_eq_some_iff, h]
  have hnodup : ∀ f : Dictionary κ α, f.entries.Nodup := by
    intro f
    refine f.sorted.imp fun hlt he => ?_
    exact KeyOrder.ne_of_lt hlt (congrArg Prod.fst he)
  have hperm := (List.perm_ext_iff_of_nodup (hnodup d) (hnodup e)).mpr hmem
  exact ext_entries (eq_of_perm_of_sorted hperm d.sorted e.sorted)

theorem get?_eq_none_iff {d : Dictionary κ α} {k : κ} : d.get? k = none ↔ k ∉ d.keys := by
  simp only [get?, keys, List.lookup_eq_none_iff, List.mem_map]
  grind

theorem mem_keys_rename {d : Dictionary κ α} {old new k' : κ} :
    k' ∈ (d.rename old new).keys ↔ ∃ k ∈ d.keys, (if k = old then new else k) = k' := by
  unfold rename
  cases hv : d.get? old with
  | none =>
    rw [get?_eq_none_iff] at hv
    constructor
    · intro hk
      have hne := ne_of_mem_of_not_mem hk hv
      exact ⟨k', hk, if_neg hne⟩
    · rintro ⟨k, hk, rfl⟩
      rwa [if_neg (ne_of_mem_of_not_mem hk hv)]
  | some v =>
    have hold : old ∈ d.keys := by
      by_contra hn
      rw [get?_eq_none_iff.mpr hn] at hv
      cases hv
    rw [mem_keys_insert, mem_keys_erase]
    constructor
    · rintro (rfl | ⟨hk, hne⟩)
      · exact ⟨old, hold, if_pos rfl⟩
      · exact ⟨k', hk, if_neg hne⟩
    · rintro ⟨k, hk, rfl⟩
      by_cases hko : k = old
      · exact .inl (if_pos hko)
      · rw [if_neg hko]
        exact .inr ⟨hk, hko⟩

omit [KeyOrder κ] in
theorem lookup_cons_ite (e : κ × α) (es : List (κ × α)) (k : κ) :
    (e :: es).lookup k = if k = e.1 then some e.2 else es.lookup k := by
  rw [List.lookup_cons]
  by_cases h : k = e.1
  · simp [h]
  · rw [beq_false_of_ne h, if_neg h]

theorem lookup_insertEntry (k k' : κ) (v : α) (es : List (κ × α)) :
    (insertEntry k v es).lookup k' = if k' = k then some v else es.lookup k' := by
  induction es with
  | nil => exact lookup_cons_ite (k, v) [] k'
  | cons e es ih =>
    have hc := KeyOrder.connected k e.1
    unfold insertEntry
    split
    · exact lookup_cons_ite (k, v) (e :: es) k'
    · split
      · rename_i hlt
        have hne : k ≠ e.1 := (KeyOrder.ne_of_lt hlt).symm
        rw [lookup_cons_ite, lookup_cons_ite, ih]
        by_cases hk : k' = k
        · rw [if_pos hk, if_pos hk, hk, if_neg hne]
        · rw [if_neg hk, if_neg hk]
      · have he : k = e.1 := by simp_all
        rw [lookup_cons_ite, lookup_cons_ite, ← he]
        by_cases hk : k' = k
        · rw [if_pos hk, if_pos hk]
        · rw [if_neg hk, if_neg hk, if_neg hk]

theorem get?_insert (d : Dictionary κ α) (k k' : κ) (v : α) :
    (d.insert k v).get? k' = if k' = k then some v else d.get? k' :=
  lookup_insertEntry k k' v d.entries

theorem get?_erase (d : Dictionary κ α) (k k' : κ) :
    (d.erase k).get? k' = if k' = k then none else d.get? k' := by
  split
  · rename_i hk
    rw [get?_eq_none_iff, mem_keys_erase, hk]
    simp
  · rename_i hk
    ext v
    simp [get?_eq_some_iff, erase, hk]

/-- Under the new key stands what stood under the old one, or else what stood there before. -/
theorem get?_rename_new (d : Dictionary κ α) (old new : κ) :
    (d.rename old new).get? new = (d.get? old).or (d.get? new) := by
  rw [rename]
  cases d.get? old with
  | none => rfl
  | some v => rw [get?_insert, if_pos rfl, Option.some_or]

theorem get?_rename_old {old new : κ} (d : Dictionary κ α) (h : old ≠ new) :
    (d.rename old new).get? old = none := by
  rw [rename]
  cases hv : d.get? old with
  | none => exact hv
  | some v => rw [get?_insert, if_neg h, get?_erase, if_pos rfl]

theorem get?_rename_of_ne {old new k : κ} (d : Dictionary κ α) (hold : k ≠ old) (hnew : k ≠ new) :
    (d.rename old new).get? k = d.get? k := by
  rw [rename]
  cases d.get? old with
  | none => rfl
  | some v => rw [get?_insert, if_neg hnew, get?_erase, if_neg hold]

/-- Renaming a key and back restores a map without the new key. -/
theorem rename_rename {old new : κ} {d : Dictionary κ α} (hne : old ≠ new) (hnew : new ∉ d.keys) :
    (d.rename old new).rename new old = d := by
  have hnone : d.get? new = none := get?_eq_none_iff.mpr hnew
  apply ext_get?
  intro k
  by_cases hold : k = old
  · rw [hold, get?_rename_new, get?_rename_new, get?_rename_old d hne, hnone, Option.or_none,
      Option.or_none]
  · by_cases hk : k = new
    · rw [hk, get?_rename_old _ (Ne.symm hne), hnone]
    · rw [get?_rename_of_ne _ hk hold, get?_rename_of_ne _ hold hk]

theorem insert_insert (d : Dictionary κ α) (k : κ) (v v' : α) :
    (d.insert k v).insert k v' = d.insert k v' := by
  apply ext_get?
  intro k'
  simp only [get?_insert]
  split <;> rfl

theorem insert_comm (d : Dictionary κ α) {k k' : κ} (h : k ≠ k') (v v' : α) :
    (d.insert k v).insert k' v' = (d.insert k' v').insert k v := by
  apply ext_get?
  intro l
  simp only [get?_insert]
  by_cases hl : l = k
  · rw [if_pos hl, if_pos hl, if_neg (hl ▸ h)]
  · rw [if_neg hl, if_neg hl]

theorem mem_entries_ofList {es : List (κ × α)} {e : κ × α} :
    e ∈ (ofList es).entries ↔ (es.filter (·.1 = e.1)).getLast? = some e := by
  induction es using List.reverseRecOn with
  | nil => simp [ofList, empty]
  | append_singleton es f ih =>
    rw [← get?_eq_some_iff] at ih
    rw [← get?_eq_some_iff, ofList_append_singleton, get?_insert, List.filter_append]
    by_cases hk : e.1 = f.1
    · have hlast : [f].filter (·.1 = e.1) = [f] := by simp [hk]
      rw [if_pos hk, hlast, List.getLast?_concat, Option.some_inj, Option.some_inj]
      exact ⟨fun hv => Prod.ext hk.symm hv, fun hf => congrArg Prod.snd hf⟩
    · have hlast : [f].filter (·.1 = e.1) = [] := by simp [Ne.symm hk]
      rw [if_neg hk, hlast, List.append_nil]
      exact ih

end Dictionary

end Spreadsheet
