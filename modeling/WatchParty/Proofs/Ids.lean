/-
Generated session ids never repeat: `SessionId.generated` is injective on all numbers, also on those
whose first group has more than four digits.
-/
import WatchParty.Ids

namespace WatchParty.SessionId

/-- The digits of a group spell its number again. -/
theorem ofDigitChars_group (n : Nat) : Nat.ofDigitChars 10 (group n) 0 = n := by
  unfold group
  rw [Nat.ofDigitChars_append, Nat.ofDigitChars_replicate_zero, Nat.mul_zero,
    Nat.ofDigitChars_ten_toDigits]

theorem group_injective {m n : Nat} (h : group m = group n) : m = n := by
  rw [← ofDigitChars_group m, ← ofDigitChars_group n, h]

/-- A number below ten thousand fills its group exactly. -/
theorem length_group {n : Nat} (h : n < 10 ^ 4) : (group n).length = 4 := by
  have hle : (Nat.toDigits 10 n).length ≤ 4 := (Nat.length_toDigits_le_iff (by decide) (by decide)).2 h
  simp only [group, List.length_append, List.length_replicate]
  omega

/-- Two texts that end in groups of the same length agree before and in these groups. -/
theorem append_group_inj {xs ys : List Char} {m n : Nat} (hm : m < 10 ^ 4) (hn : n < 10 ^ 4)
    (h : xs ++ '-' :: group m = ys ++ '-' :: group n) : xs = ys ∧ m = n := by
  have hlen : ('-' :: group m).length = ('-' :: group n).length := by
    rw [List.length_cons, List.length_cons, length_group hm, length_group hn]
  obtain ⟨hxs, hgroup⟩ := List.append_inj' h hlen
  exact ⟨hxs, group_injective (List.cons.inj hgroup).2⟩

/-- Different numbers generate different ids. -/
theorem generated_injective {m n : Nat} (h : generated m = generated n) : m = n := by
  have hlt : ∀ k, k % 10 ^ 4 < 10 ^ 4 := fun k => Nat.mod_lt _ (by decide)
  have htext := String.ofList_injective (congrArg SessionId.text h)
  obtain ⟨h, h0⟩ := append_group_inj (hlt _) (hlt _) htext
  obtain ⟨h, h1⟩ := append_group_inj (hlt _) (hlt _) h
  obtain ⟨h, h2⟩ := append_group_inj (hlt _) (hlt _) h
  have h3 := group_injective h
  unfold base at h0 h1 h2 h3
  omega

end WatchParty.SessionId
