import NovelScript.Build.Digest

/-!
# Digests that can be worked out

A message is cut into groups by a recursion on its length. With a bound on the number of groups the
recursion is on that bound, and a digest can be worked out in a proof (`digest_eq`).
-/

namespace NovelScript.Build

variable {α : Type}

/-- At most `bound` consecutive groups of `n + 1`; the last may be shorter. -/
def groupsWithin (n : Nat) : (bound : Nat) → List α → List (List α)
  | 0, _ => []
  | _ + 1, [] => []
  | bound + 1, x :: r => (x :: r.take n) :: groupsWithin n bound (r.drop n)

/-- The groups of the message are taken by a recursion that `decide` can follow, with a bound in
place of a proof that the message gets shorter. Any bound that is large enough gives the same
groups. -/
theorem groupsOf_eq_groupsWithin (n : Nat) {bound : Nat} {xs : List α} (h : xs.length ≤ bound) :
    groupsOf n xs = groupsWithin n bound xs := by
  induction bound generalizing xs with
  | zero =>
    rw [List.eq_nil_of_length_eq_zero (Nat.le_zero.1 h), groupsOf]
    rfl
  | succ bound ih =>
    cases xs with
    | nil =>
      rw [groupsOf]
      rfl
    | cons x r =>
      have hr : (r.drop n).length ≤ bound := by
        simp only [List.length_cons, List.length_drop] at h ⊢
        omega
      rw [groupsOf, groupsWithin, ih hr]

/-- The words of a message. -/
def messageWords (message : Text) : List UInt32 :=
  (groupsWithin 3 (padded message).length (padded message)).map wordOf

/-- The digest by recursions on bounds. -/
theorem digest_eq (message : Text) :
    digest message =
      ((groupsWithin 15 (messageWords message).length (messageWords message)).foldl digestBlock
        DigestState.initial).words.flatMap fun w => Text.hexPadded 8 w.toNat := by
  rw [digest, messageWords]
  simp only [groupsOf_eq_groupsWithin _ (Nat.le_refl _)]

end NovelScript.Build
