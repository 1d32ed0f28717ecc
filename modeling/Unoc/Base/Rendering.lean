import Mathlib.Data.List.Basic
import Mathlib.Data.String.Basic

/-!
# Rendered names

Names that are put together from parts with a separator, and numbers in them. A part is read back
where the separator cannot occur behind it, as it cannot in a rendered number.
-/

namespace Unoc.Base

/-- Lists are read back at their last separator. -/
theorem append_cons_inj_of_notMem_right {α : Type} {c : α} {xs ys xs' ys' : List α}
    (hy : c ∉ ys) (hy' : c ∉ ys') (h : xs ++ c :: ys = xs' ++ c :: ys') : xs = xs' ∧ ys = ys' := by
  have hprefix : ∀ {as zs zs' : List α}, c ∉ zs → c :: zs = as ++ c :: zs' → as = [] ∧ zs = zs' := by
    intro as zs zs' hz heq
    cases as with
    | nil => exact ⟨rfl, (List.cons.inj heq).2⟩
    | cons a as =>
      rw [(List.cons.inj heq).2] at hz
      exact absurd (List.mem_append_right as List.mem_cons_self) hz
  rcases List.append_eq_append_iff.mp h with ⟨as, hx, heq⟩ | ⟨as, hx, heq⟩
  · have ⟨hnil, htail⟩ := hprefix hy heq
    rw [hnil, List.append_nil] at hx
    exact ⟨hx.symm, htail⟩
  · have ⟨hnil, htail⟩ := hprefix hy' heq
    rw [hnil, List.append_nil] at hx
    exact ⟨hx, htail.symm⟩

/-- Decimal digits are read back. -/
theorem toString_inj {m n : Nat} (h : (toString m).toList = (toString n).toList) : m = n := by
  have hdigits : Nat.toDigits 10 m = Nat.toDigits 10 n := by
    simpa only [Nat.toString_eq_repr, Nat.toList_repr] using h
  simpa using congrArg (fun digits ↦ Nat.ofDigitChars 10 digits 0) hdigits

/-- A rendered number consists of digits. -/
theorem notMem_toString {c : Char} (hc : c.isDigit = false) (n : Nat) : c ∉ (toString n).toList := by
  intro h
  rw [Nat.toString_eq_repr, Nat.toList_repr] at h
  have hdigit := Nat.isDigit_of_mem_toDigits (by decide) (by decide) h
  rw [hc] at hdigit
  cases hdigit

/-- A number behind any part and a colon is read back, and so is the part. -/
theorem append_colon_toString_inj {a b : String} {m n : Nat}
    (h : a ++ ":" ++ toString m = b ++ ":" ++ toString n) : a = b ∧ m = n := by
  have hchars : a.toList ++ ':' :: (toString m).toList = b.toList ++ ':' :: (toString n).toList := by
    simpa [String.toList_append] using congrArg String.toList h
  have ⟨hpart, hnumber⟩ := append_cons_inj_of_notMem_right (notMem_toString rfl m)
    (notMem_toString rfl n) hchars
  exact ⟨String.toList_inj.mp hpart, toString_inj hnumber⟩

end Unoc.Base
