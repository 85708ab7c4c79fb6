import Mathlib
import Screenlock.Service.Ability

/-! # Keys of the persisted settings

An account's disabled flag is stored under its decimal id, and its unlock policy
under the id with a prefix. Two accounts never share a key, and neither do the
two settings.
-/

namespace Screenlock

theorem disabledKey_injective : Function.Injective disabledKey :=
  fun _ _ hsame => Int.repr_injective hsame

theorem unlockPolicyKey_injective : Function.Injective unlockPolicyKey := by
  intro first second hsame
  apply disabledKey_injective
  have hlist := congrArg String.toList hsame
  simp only [unlockPolicyKey, String.toList_append] at hlist
  exact String.toList_inj.mp (List.append_cancel_left hlist)

/-- A decimal id is made of digits and a sign. -/
theorem u_notMem_disabledKey (userId : UserId) : 'u' ∉ (disabledKey userId).toList := by
  have hdigits : ∀ n : Nat, 'u' ∉ (Nat.repr n).toList := by
    intro n hmem
    rw [Nat.toList_repr] at hmem
    have hdigit := Nat.isDigit_of_mem_toDigits (by decide) (by decide) hmem
    revert hdigit
    decide
  cases userId with
  | ofNat n => exact hdigits n
  | negSucc n =>
      intro hmem
      have hsplit : disabledKey (Int.negSucc n) = "-" ++ Nat.repr (n + 1) := rfl
      rw [hsplit, String.toList_append, List.mem_append] at hmem
      rcases hmem with hsign | hdigit
      · revert hsign
        decide
      · exact hdigits _ hdigit

theorem unlockPolicyKey_ne_disabledKey (policyUser disabledUser : UserId) :
    unlockPolicyKey policyUser ≠ disabledKey disabledUser := by
  intro hsame
  apply u_notMem_disabledKey disabledUser
  rw [← hsame, unlockPolicyKey, String.toList_append]
  exact List.mem_append_left _ (by decide)

end Screenlock
