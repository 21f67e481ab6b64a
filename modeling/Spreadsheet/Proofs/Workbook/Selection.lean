import Mathlib
import Spreadsheet.Proofs.Workbook.Checked

namespace Spreadsheet.Workbook

namespace MergeRange

variable {m n cut : MergeRange} {label : String} {rows columns : Nat}

/-- The rectangles share a cell. -/
def Meets (m n : MergeRange) : Prop :=
  ∃ p : Position, m.contains p.1 p.2 = true ∧ n.contains p.1 p.2 = true

theorem overlaps_iff_meets (hm : m.Ordered) (hn : n.Ordered) :
    m.overlaps n = true ↔ m.Meets n := by
  constructor
  · intro h
    obtain ⟨hmr, hmc⟩ := hm
    obtain ⟨hnr, hnc⟩ := hn
    rw [overlaps_iff] at h
    refine ⟨(max m.firstRow n.firstRow, max m.firstColumn n.firstColumn), ?_, ?_⟩
    · rw [contains_iff]
      dsimp only
      omega
    · rw [contains_iff]
      dsimp only
      omega
  · rintro ⟨p, hmp, hnp⟩
    exact overlaps_of_contains hmp hnp

/-- The second rectangle is what the first one covers of a grid. It has the same label unless
something was cut off. -/
structure IsCut (rows columns : Nat) (m cut : MergeRange) : Prop extends cut.Fits rows columns where
  contains_iff : ∀ p : Position, cut.contains p.1 p.2 = true ↔
    m.contains p.1 p.2 = true ∧ p.1 < rows ∧ p.2 < columns
  whole : m.Fits rows columns → cut = m
  relabelled : ¬ m.Fits rows columns → cut.label = cut.cornerLabel

theorem clip?_eq_none_iff :
    m.clip? rows columns = none ↔ ¬ (m.firstRow < rows ∧ m.firstColumn < columns) := by
  rw [clip?, not_and_or, not_lt, not_lt]
  split
  · simp_all
  · rename_i h
    simp only [h, iff_false]
    split <;> simp

theorem clip?_of_fits (h : m.Fits rows columns) : m.clip? rows columns = some m := by
  obtain ⟨⟨hr, hc⟩, hlr, hlc⟩ := h
  rw [clip?, if_neg (by omega), if_neg (by omega)]

theorem isCut_of_clip? (hm : m.Ordered) (h : m.clip? rows columns = some cut) :
    m.IsCut rows columns cut := by
  have hfits := clip?_fits hm h
  unfold clip? at h
  split at h
  · cases h
  · rename_i hinside
    split at h
    · rename_i hout
      obtain rfl := Option.some.inj h
      refine ⟨hfits, fun p => ?_, fun hwhole => ?_, fun _ => rfl⟩
      · rw [MergeRange.contains_iff, MergeRange.contains_iff]
        dsimp only
        omega
      · have hr := hwhole.lastRow_lt
        have hc := hwhole.lastColumn_lt
        omega
    · obtain rfl := Option.some.inj h
      refine ⟨hfits, fun p => ?_, fun _ => rfl, fun hpart => absurd hfits hpart⟩
      rw [MergeRange.contains_iff]
      omega

/-- What is kept of a rectangle that a label names has a label that names it. -/
theorem read_clip? (hread : read label = .ok m) (h : m.clip? rows columns = some cut) :
    read cut.label = .ok cut := by
  unfold clip? at h
  split at h
  · cases h
  · rename_i hinside
    rw [not_or, not_le, not_le] at hinside
    split at h
    · obtain rfl := Option.some.inj h
      exact read_cornerLabel ((read_inWords hread).cut hinside.1 hinside.2)
    · obtain rfl := Option.some.inj h
      exact read_label hread

end MergeRange

namespace Merges

variable {rows columns : Nat} {kept ranges : List MergeRange} {label : String} {labels : List String}

theorem place_of_outside {m : MergeRange} (hread : MergeRange.read label = .ok m)
    (h : ¬ (m.firstRow < rows ∧ m.firstColumn < columns)) : place rows columns kept label = kept := by
  rw [place, hread]
  simp only [keep, MergeRange.clip?_eq_none_iff.mpr h]

theorem place_of_clip? {m cut : MergeRange} (hread : MergeRange.read label = .ok m)
    (hcut : m.clip? rows columns = some cut) :
    place rows columns kept label = if kept.any (·.overlaps cut) then kept else kept ++ [cut] := by
  rw [place, hread]
  simp only [keep, hcut]

/-- A label adds a rectangle or nothing. -/
theorem place_cases (kept : List MergeRange) (label : String) :
    place rows columns kept label = kept ∨
      ∃ m cut, MergeRange.read label = .ok m ∧ m.clip? rows columns = some cut ∧
        place rows columns kept label = kept ++ [cut] := by
  cases hread : MergeRange.read label with
  | error e =>
    left
    rw [place, hread]
  | ok m =>
    cases hcut : m.clip? rows columns with
    | none => exact .inl (place_of_outside hread (MergeRange.clip?_eq_none_iff.mp hcut))
    | some cut =>
      rw [place_of_clip? hread hcut]
      split
      · exact .inl rfl
      · exact .inr ⟨m, cut, rfl, hcut, rfl⟩

theorem exists_later (kept : List MergeRange) (labels : List String) :
    ∃ later, labels.foldl (place rows columns) kept = kept ++ later := by
  induction labels generalizing kept with
  | nil => exact ⟨[], by simp⟩
  | cons label labels ih =>
    obtain ⟨later, hlater⟩ := ih (place rows columns kept label)
    rw [List.foldl_cons, hlater]
    rcases place_cases kept label with h | ⟨m, cut, -, -, h⟩
    · exact ⟨later, by rw [h]⟩
    · exact ⟨cut :: later, by simp [h]⟩

theorem ranges_ofLabels_append (before : List String) (label : String) (after : List String) :
    (ofLabels rows columns (before ++ label :: after)).ranges =
      after.foldl (place rows columns)
        (place rows columns (ofLabels rows columns before).ranges label) := by
  simp only [ranges_ofLabels, List.foldl_append, List.foldl_cons]

theorem ranges_ofLabels_concat (labels : List String) (label : String) :
    (ofLabels rows columns (labels ++ [label])).ranges =
      place rows columns (ofLabels rows columns labels).ranges label :=
  ranges_ofLabels_append labels label []

theorem exists_label_of_kept {k : MergeRange} {later : List MergeRange}
    (h : (ofLabels rows columns labels).ranges = kept ++ k :: later) :
    ∃ before label after m, labels = before ++ label :: after ∧
      (ofLabels rows columns before).ranges = kept ∧ MergeRange.read label = .ok m ∧
        m.clip? rows columns = some k := by
  induction labels using List.reverseRecOn generalizing later with
  | nil => simp [ofLabels, ofRanges] at h
  | append_singleton labels label ih =>
    rw [ranges_ofLabels_concat] at h
    rcases place_cases (ofLabels rows columns labels).ranges label with hp | ⟨m, cut, hread, hcut, hp⟩
    · rw [hp] at h
      obtain ⟨before, label', after, m, rfl, hrest⟩ := ih h
      exact ⟨before, label', after ++ [label], m, by simp, hrest⟩
    · rw [hp] at h
      rcases List.eq_nil_or_concat later with rfl | ⟨later, last, rfl⟩
      · obtain ⟨hkept, hk⟩ := List.append_inj' h rfl
        obtain rfl := List.singleton_inj.mp hk
        exact ⟨labels, label, [], m, rfl, hkept, hread, hcut⟩
      · have hback : (ofLabels rows columns labels).ranges ++ [cut] =
            (kept ++ k :: later) ++ [last] := by
          rw [h]
          simp
        obtain ⟨before, label', after, m, rfl, hrest⟩ := ih (List.append_inj' hback rfl).1
        exact ⟨before, label', after ++ [label], m, by simp, hrest⟩

/-- A rectangle that is kept has a label that names it. -/
theorem read_of_mem_ranges {k : MergeRange} (hk : k ∈ (ofLabels rows columns labels).ranges) :
    MergeRange.read k.label = .ok k := by
  obtain ⟨kept, later, hsplit⟩ := List.append_of_mem hk
  obtain ⟨-, label, -, m, -, -, hread, hcut⟩ := exists_label_of_kept hsplit
  exact MergeRange.read_clip? hread hcut

theorem foldl_keep_of_laid (h : Laid rows columns (kept ++ ranges)) :
    ranges.foldl (keep rows columns) kept = kept ++ ranges := by
  induction ranges generalizing kept with
  | nil => simp
  | cons m ranges ih =>
    have hfits : m.Fits rows columns := h.fits m (by simp)
    have hapart : kept.any (·.overlaps m) = false := by
      have happend := (List.pairwise_append.mp h.apart).2.2
      simpa using fun k hk => happend k hk m List.mem_cons_self
    have hkeep : keep rows columns kept m = kept ++ [m] := by
      simp [keep, MergeRange.clip?_of_fits hfits, hapart]
    have hall : kept ++ m :: ranges = kept ++ [m] ++ ranges := by simp
    rw [hall] at h ⊢
    rw [List.foldl_cons, hkeep, ih h]

/-- Rectangles that are laid in a grid under labels of their own are merged as they are. -/
theorem ofLabels_labels (h : Laid rows columns ranges)
    (hread : ∀ k ∈ ranges, MergeRange.read k.label = .ok k) :
    ofLabels rows columns (ranges.map (·.label)) = ⟨ranges⟩ := by
  have hparsed : (ranges.map (·.label)).filterMap (fun label => (MergeRange.read label).toOption) =
      ranges := by
    calc (ranges.map (·.label)).filterMap (fun label => (MergeRange.read label).toOption)
        = ranges.filterMap fun k => (MergeRange.read k.label).toOption := List.filterMap_map ..
      _ = ranges.filterMap some := by
        refine List.filterMap_congr fun k hk => ?_
        rw [hread k hk]
        rfl
      _ = ranges := List.filterMap_some
  have hlaid : Laid rows columns ([] ++ ranges) := h
  rw [ofLabels, hparsed, ofRanges, foldl_keep_of_laid hlaid]
  rfl

theorem any_overlaps_iff_meets {m cut : MergeRange} (hm : m.IsCut rows columns cut) :
    (ofLabels rows columns labels).ranges.any (·.overlaps cut) = true ↔
      ∃ k ∈ (ofLabels rows columns labels).ranges, k.Meets cut := by
  have hlaid := ofLabels_laid rows columns labels
  rw [List.any_eq_true]
  refine exists_congr fun k => and_congr_right fun hk => ?_
  exact MergeRange.overlaps_iff_meets (hlaid.fits k hk).toOrdered hm.toOrdered

/-- What the list keeps for one of its labels that names a rectangle of the grid: the cut rectangle
unless it meets one that the labels before keep. -/
theorem ranges_ofLabels_of_label {m : MergeRange} {before after : List String}
    (hread : MergeRange.read label = .ok m) (hr : m.firstRow < rows) (hc : m.firstColumn < columns) :
    ∃ cut later, m.IsCut rows columns cut ∧
      (((∃ k ∈ (ofLabels rows columns before).ranges, k.Meets cut) ∧
          (ofLabels rows columns (before ++ label :: after)).ranges =
            (ofLabels rows columns before).ranges ++ later) ∨
        ((¬ ∃ k ∈ (ofLabels rows columns before).ranges, k.Meets cut) ∧
          (ofLabels rows columns (before ++ label :: after)).ranges =
            (ofLabels rows columns before).ranges ++ cut :: later)) := by
  have hsome : m.clip? rows columns ≠ none := by
    rw [Ne, MergeRange.clip?_eq_none_iff, not_not]
    exact ⟨hr, hc⟩
  obtain ⟨cut, hcut⟩ := Option.ne_none_iff_exists'.mp hsome
  have his := MergeRange.isCut_of_clip? (MergeRange.read_ordered hread) hcut
  obtain ⟨later, hlater⟩ := exists_later
    (place rows columns (ofLabels rows columns before).ranges label) after
  refine ⟨cut, later, his, ?_⟩
  rw [ranges_ofLabels_append, hlater, place_of_clip? hread hcut, ← any_overlaps_iff_meets his]
  split
  · rename_i hany
    exact .inl ⟨hany, rfl⟩
  · rename_i hany
    exact .inr ⟨hany, by simp⟩

/-- The merges of a list of labels come from their own labels again. They are chosen greedily: a label
that names a rectangle of the grid keeps the part of it in the grid, behind the rectangles of the
labels before, unless this part shares a cell with one of these; and nothing else is kept. No
arithmetic on the way is at fault. -/
theorem ofLabels_greedy (rows columns : Nat) (labels : List String) :
    ofLabels rows columns ((ofLabels rows columns labels).ranges.map (·.label)) =
        ofLabels rows columns labels ∧
      (∀ before label after m, labels = before ++ label :: after →
        MergeRange.read label = .ok m → m.firstRow < rows → m.firstColumn < columns →
          ∃ cut later, m.IsCut rows columns cut ∧
            (((∃ k ∈ (ofLabels rows columns before).ranges, k.Meets cut) ∧
                (ofLabels rows columns labels).ranges =
                  (ofLabels rows columns before).ranges ++ later) ∨
              ((¬ ∃ k ∈ (ofLabels rows columns before).ranges, k.Meets cut) ∧
                (ofLabels rows columns labels).ranges =
                  (ofLabels rows columns before).ranges ++ cut :: later))) ∧
      (∀ kept k later, (ofLabels rows columns labels).ranges = kept ++ k :: later →
        ∃ before label after m, labels = before ++ label :: after ∧
          (ofLabels rows columns before).ranges = kept ∧ MergeRange.read label = .ok m ∧
            m.IsCut rows columns k) ∧
      Checked.ofLabels rows columns labels = .ok (ofLabels rows columns labels) ∧
      ∀ k ∈ (ofLabels rows columns labels).ranges,
        Checked.rowSpan k = .ok k.rowSpan ∧ Checked.columnSpan k = .ok k.columnSpan := by
  refine ⟨?_, ?_, ?_, Checked.ofLabels_eq rows columns labels, ?_⟩
  · exact ofLabels_labels (ofLabels_laid rows columns labels) fun k hk => read_of_mem_ranges hk
  · rintro before label after m rfl hread hr hc
    exact ranges_ofLabels_of_label hread hr hc
  · intro kept k later hsplit
    obtain ⟨before, label, after, m, hlabels, hkept, hread, hcut⟩ := exists_label_of_kept hsplit
    exact ⟨before, label, after, m, hlabels, hkept, hread,
      MergeRange.isCut_of_clip? (MergeRange.read_ordered hread) hcut⟩
  · intro k hk
    have hwords := MergeRange.read_inWords (read_of_mem_ranges hk)
    exact ⟨Checked.rowSpan_eq hwords, Checked.columnSpan_eq hwords⟩

def drawnLabels : List String :=
  ["a1:B2", "junk", " $b$2 : C3", "c1:D9"]

theorem drawnLabels_greedy :
    (ofLabels 3 5 drawnLabels).ranges.map (·.corners) = [((0, 0), (1, 1)), ((0, 2), (2, 3))] ∧
      ofLabels 3 5 ((ofLabels 3 5 drawnLabels).ranges.map (·.label)) = ofLabels 3 5 drawnLabels ∧
      ∃ m, MergeRange.read " $b$2 : C3" = .ok m ∧ m.firstRow < 3 ∧ m.firstColumn < 5 ∧
        ∃ cut later, m.IsCut 3 5 cut ∧
          (((∃ k ∈ (ofLabels 3 5 ["a1:B2", "junk"]).ranges, k.Meets cut) ∧
              (ofLabels 3 5 drawnLabels).ranges =
                (ofLabels 3 5 ["a1:B2", "junk"]).ranges ++ later) ∨
            ((¬ ∃ k ∈ (ofLabels 3 5 ["a1:B2", "junk"]).ranges, k.Meets cut) ∧
              (ofLabels 3 5 drawnLabels).ranges =
                (ofLabels 3 5 ["a1:B2", "junk"]).ranges ++ cut :: later)) := by
  have hcorners : (ofLabels 3 5 drawnLabels).ranges.map (·.corners) =
      [((0, 0), (1, 1)), ((0, 2), (2, 3))] := by decide +kernel
  obtain ⟨hagain, hgreedy, -⟩ := ofLabels_greedy 3 5 drawnLabels
  obtain ⟨m, hm, hr, hc⟩ : ∃ m, MergeRange.read " $b$2 : C3" = .ok m ∧ m.firstRow < 3 ∧
      m.firstColumn < 5 := ⟨_, by rfl, by decide, by decide⟩
  exact ⟨hcorners, hagain, m, hm, hr, hc,
    hgreedy ["a1:B2", "junk"] " $b$2 : C3" ["c1:D9"] m rfl hm hr hc⟩

end Merges

end Spreadsheet.Workbook
