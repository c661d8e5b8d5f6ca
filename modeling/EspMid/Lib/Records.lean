import Mathlib.Data.Vector.Basic

/-! # Records of one length

A list cut into consecutive vectors of length `n`, what is left over dropped: `chunksExact`. Cutting
inverts writing records one after the other (`chunksExact_flatMap_append`), and a list whose length
is a multiple of `n` is its records (`flatMap_chunksExact`). -/

namespace EspMid.Lib.Records

variable {α : Type} {n : ℕ}

/-- The first record of a list. -/
def first (n : ℕ) (b : List α) : Option (List.Vector α n) :=
  if h : (b.take n).length = n then some ⟨b.take n, h⟩ else none

/-- The first `k` records of a list. -/
def chunks (n : ℕ) : ℕ → List α → List (List.Vector α n)
  | 0, _ => []
  | k + 1, b =>
    match first n b with
    | some r => r :: chunks n k (b.drop n)
    | none => []

/-- All records of a list, as `slice::chunks_exact` cuts them. -/
def chunksExact (n : ℕ) (b : List α) : List (List.Vector α n) := chunks n (b.length / n) b

theorem first_eq_some {b : List α} {r : List.Vector α n} :
    first n b = some r ↔ b.take n = r.toList := by
  unfold first
  constructor
  · intro h
    split_ifs at h
    rw [← Option.some.inj h]
    rfl
  · intro h
    have hlen : (b.take n).length = n := h ▸ r.toList_length
    rw [dif_pos hlen]
    exact congrArg some (List.Vector.eq _ _ h)

theorem chunksExact_append (hn : 0 < n) (r : List.Vector α n) (b : List α) :
    chunksExact n (r.toList ++ b) = r :: chunksExact n b := by
  have hlen : (r.toList ++ b).length / n = b.length / n + 1 := by
    rw [List.length_append, r.toList_length, Nat.add_div_left _ hn]
  have hfirst : first n (r.toList ++ b) = some r :=
    first_eq_some.mpr (List.take_left' r.toList_length)
  have hdrop : (r.toList ++ b).drop n = b := List.drop_left' r.toList_length
  unfold chunksExact
  rw [hlen]
  simp only [chunks, hfirst, hdrop]

theorem chunksExact_of_le_length (hn : 0 < n) {b : List α} (h : n ≤ b.length) :
    ∃ r : List.Vector α n, r.toList = b.take n ∧ chunksExact n b = r :: chunksExact n (b.drop n) := by
  have hlen : (b.take n).length = n := List.length_take_of_le h
  obtain ⟨r, hr⟩ : ∃ r : List.Vector α n, r.toList = b.take n := ⟨⟨b.take n, hlen⟩, rfl⟩
  refine ⟨r, hr, ?_⟩
  rw [← chunksExact_append hn, hr, List.take_append_drop]

/-- **Records written one after the other** are cut as they were. -/
theorem chunksExact_flatMap_append (hn : 0 < n) (rs : List (List.Vector α n)) (b : List α) :
    chunksExact n (rs.flatMap List.Vector.toList ++ b) = rs ++ chunksExact n b := by
  induction rs with
  | nil => rfl
  | cons r rs ih =>
    rw [List.flatMap_cons, List.append_assoc, chunksExact_append hn, ih]
    rfl

theorem length_flatMap_toList (rs : List (List.Vector α n)) :
    (rs.flatMap List.Vector.toList).length = rs.length * n := by
  induction rs with
  | nil => simp
  | cons r rs ih =>
    rw [List.flatMap_cons, List.length_append, ih, r.toList_length, List.length_cons,
      Nat.succ_mul, Nat.add_comm]

theorem flatMap_chunks (k : ℕ) :
    ∀ b : List α, b.length = k * n → (chunks n k b).flatMap List.Vector.toList = b := by
  induction k with
  | zero =>
    intro b hb
    rw [List.length_eq_zero_iff.mp (hb.trans (Nat.zero_mul n))]
    rfl
  | succ k ih =>
    intro b hb
    rw [Nat.succ_mul] at hb
    have htake : (b.take n).length = n := by rw [List.length_take]; omega
    have hdrop : (b.drop n).length = k * n := by rw [List.length_drop]; omega
    obtain ⟨r, hr⟩ : ∃ r : List.Vector α n, r.toList = b.take n := ⟨⟨b.take n, htake⟩, rfl⟩
    have hfirst : first n b = some r := first_eq_some.mpr hr.symm
    simp only [chunks, hfirst, List.flatMap_cons, ih _ hdrop, hr]
    exact List.take_append_drop n b

/-- **A list is its records** if its length is a multiple of theirs. -/
theorem flatMap_chunksExact {b : List α} (h : n ∣ b.length) :
    (chunksExact n b).flatMap List.Vector.toList = b :=
  flatMap_chunks _ b (Nat.div_mul_cancel h).symm

end EspMid.Lib.Records
