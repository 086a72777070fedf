import ClusterProvision.Simulation.Record
import Mathlib.Data.Nat.Digits.Lemmas

/-!
# `ClusterProvision.Proofs.BootIds`: what boot ids look like

A boot id spells its number with 16 digits (`Simulation.Record.spells_bootId`). What is spelled can
be read again (`Text.Spells.eq_read`), so the boot ids of different numbers are different
(`Simulation.Record.bootId_inj`).
-/

set_option autoImplicit false

namespace ClusterProvision

namespace Text

/-- Characters spell a number in hexadecimal: they are small digits, and the first counts most. -/
def Spells (chars : List Char) (n : Nat) : Prop :=
  ∃ digits : List Nat, (∀ digit ∈ digits, digit < 16) ∧ chars = digits.map Nat.digitChar
    ∧ Nat.ofDigits 16 digits.reverse = n

/-- The value of a small digit. -/
def digitValue (c : Char) : Nat := "0123456789abcdef".toList.idxOf c

theorem digitValue_digitChar {digit : Nat} (h : digit < 16) :
    digitValue (Nat.digitChar digit) = digit := by
  have hall : ∀ digit < 16, digitValue (Nat.digitChar digit) = digit := by decide
  exact hall digit h

/-- The number that characters spell is the one that their values make up. -/
theorem Spells.eq_read {chars : List Char} {n : Nat} (h : Spells chars n) :
    n = Nat.ofDigits 16 (chars.map digitValue).reverse := by
  obtain ⟨digits, hdigits, rfl, rfl⟩ := h
  have hvalues : digits.map (digitValue ∘ Nat.digitChar) = digits.map id :=
    List.map_congr_left fun digit hdigit => digitValue_digitChar (hdigits digit hdigit)
  rw [List.map_map, hvalues, List.map_id]

/-- The digits of a number that is not zero. -/
theorem hex_of_pos {n : Nat} (h : 0 < n) :
    hex n = (Nat.digits 16 n).reverse.map Nat.digitChar := by
  induction n using Nat.strongRecOn with
  | ind n ih =>
    unfold hex
    rw [Nat.digits_def' (by decide) h, List.reverse_cons, List.map_append]
    rcases Nat.lt_or_ge n 16 with hlt | hge
    · rw [Nat.toDigits_of_lt_base hlt, Nat.div_eq_of_lt hlt, Nat.mod_eq_of_lt hlt]
      rfl
    · have hrest := ih (n / 16) (by omega) (by omega)
      rw [Nat.toDigits_of_base_le (by decide) hge]
      exact congrArg (· ++ [Nat.digitChar (n % 16)]) hrest

/-- Zeros in front of the digits of a number make up for those that are missing. -/
theorem padded_hex {width : Nat} (hwidth : 0 < width) (n : Nat) :
    List.replicate (width - (hex n).length) '0' ++ hex n
      = (Nat.digitsAppend 16 width n).reverse.map Nat.digitChar := by
  have hzero : Nat.digitChar 0 = '0' := rfl
  rw [Nat.digitsAppend, List.reverse_append, List.map_append, List.reverse_replicate,
    List.map_replicate, hzero]
  rcases Nat.eq_zero_or_pos n with rfl | hpos
  · -- Zero is written with one digit, but it has none.
    have hhex : hex 0 = ['0'] := by decide
    rw [hhex, Nat.digits_zero, List.reverse_nil, List.map_nil, List.append_nil]
    show List.replicate (width - 1) '0' ++ List.replicate 1 '0' = List.replicate width '0'
    rw [← List.replicate_add, Nat.sub_add_cancel hwidth]
  · rw [hex_of_pos hpos, List.length_map, List.length_reverse]

end Text

namespace Simulation.Record

/-- A boot id spells its number with 16 digits. -/
theorem spells_bootId {n : Nat} (h : n < 2 ^ 64) :
    ∃ chars : List Char, chars.length = 16 ∧ Text.Spells chars n
      ∧ bootId (UInt64.ofNat n) = "boot_" ++ String.ofList chars := by
  have hbound : n < 16 ^ 16 := h
  refine ⟨(Nat.digitsAppend 16 16 n).reverse.map Nat.digitChar, ?_, ?_, ?_⟩
  · rw [List.length_map, List.length_reverse, Nat.length_digitsAppend (by decide) 16 hbound]
  · refine ⟨(Nat.digitsAppend 16 16 n).reverse, ?_, rfl, ?_⟩
    · intro digit hdigit
      exact Nat.lt_of_mem_digitsAppend (by decide) 16 digit (List.mem_reverse.mp hdigit)
    · rw [List.reverse_reverse, Nat.digitsAppend, Nat.ofDigits_append_replicate_zero,
        Nat.ofDigits_digits]
  · rw [bootId, UInt64.toNat_ofNat_of_lt' h, Text.padded_hex (by decide)]

/-- Different numbers have different boot ids. -/
theorem bootId_inj {m n : Nat} (hm : m < 2 ^ 64) (hn : n < 2 ^ 64)
    (h : bootId (UInt64.ofNat m) = bootId (UInt64.ofNat n)) : m = n := by
  obtain ⟨chars, -, hspells, hid⟩ := spells_bootId hm
  obtain ⟨others, -, hothers, hother⟩ := spells_bootId hn
  rw [hid, hother, String.append_right_inj] at h
  rw [hspells.eq_read, hothers.eq_read, String.ofList_injective h]

end Simulation.Record
end ClusterProvision
