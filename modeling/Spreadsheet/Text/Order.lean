namespace Spreadsheet.Text

def lexOrdering : List Char → List Char → Ordering
  | [], [] => .eq
  | [], _ :: _ => .lt
  | _ :: _, [] => .gt
  | c :: cs, d :: ds =>
    if c.toNat < d.toNat then .lt else if d.toNat < c.toNat then .gt else lexOrdering cs ds

theorem lexOrdering_self (cs : List Char) : lexOrdering cs cs = .eq := by
  induction cs with
  | nil => rfl
  | cons c cs ih => simp [lexOrdering, ih]

theorem lexOrdering_trans {as bs cs : List Char} (h : lexOrdering as bs = .lt)
    (h' : lexOrdering bs cs = .lt) : lexOrdering as cs = .lt := by
  induction as generalizing bs cs with
  | nil => cases bs <;> cases cs <;> simp_all [lexOrdering]
  | cons a as ih =>
    cases bs with
    | nil => simp [lexOrdering] at h
    | cons b bs =>
      cases cs with
      | nil => simp [lexOrdering] at h'
      | cons c cs =>
        have := @ih bs cs
        grind [lexOrdering]

theorem lexOrdering_swap (cs ds : List Char) : lexOrdering ds cs = (lexOrdering cs ds).swap := by
  induction cs generalizing ds with
  | nil => cases ds <;> rfl
  | cons c cs ih =>
    cases ds with
    | nil => rfl
    | cons d ds =>
      rcases Nat.lt_trichotomy c.toNat d.toNat with h | h | h
      · simp [lexOrdering, h, Nat.lt_asymm h]
      · simp [lexOrdering, h, ih ds]
      · simp [lexOrdering, h, Nat.lt_asymm h]

theorem eq_of_lexOrdering {cs ds : List Char} (h : lexOrdering cs ds = .eq) : cs = ds := by
  induction cs generalizing ds with
  | nil => cases ds <;> simp_all [lexOrdering]
  | cons c cs ih =>
    cases ds with
    | nil => simp [lexOrdering] at h
    | cons d ds =>
      have := @ih ds
      have := @Char.toNat_inj c d
      grind [lexOrdering]

end Spreadsheet.Text
