import ClusterProvision.Text.Utf8
import Mathlib.Data.List.Basic

/-!
# `ClusterProvision.Proofs.Utf8Order`: texts in the order of their bytes

Texts are compared by their characters. Their encodings, compared by bytes, come in the same
order (`Text.toUtf8_lt_toUtf8`): of two different characters the smaller has the smaller byte
where their encodings first differ (`Text.differ_of_lt`).
-/

set_option autoImplicit false

namespace ClusterProvision.Text

/-! ### The bytes of a text -/

theorem toList_loop (bytes : ByteArray) (i : Nat) (done : List UInt8) :
    ByteArray.toList.loop bytes i done = done.reverse ++ bytes.data.toList.drop i := by
  fun_induction ByteArray.toList.loop bytes i done with
  | case1 i done h ih =>
    have hdrop : bytes.data.toList.drop i = bytes.get! i :: bytes.data.toList.drop (i + 1) := by
      have hlt : i < bytes.data.toList.length := h
      rw [List.drop_eq_getElem_cons hlt]
      congr 1
      exact (getElem!_pos bytes.data i h).symm
    rw [ih, hdrop, List.reverse_cons, List.append_assoc]
    rfl
  | case2 i done h =>
    have hle : bytes.data.toList.length ≤ i := Nat.not_lt.mp h
    rw [List.drop_eq_nil_of_le hle, List.append_nil]

/-- The bytes of a text are those of its characters. -/
theorem toUtf8_eq_flatMap (s : String) : toUtf8 s = s.toList.flatMap String.utf8EncodeChar := by
  -- A text is made of the encodings of its characters, so this is true by definition.
  have hbytes : s.toUTF8 = (s.toList.flatMap String.utf8EncodeChar).toByteArray := by
    conv => lhs; rw [← String.ofList_toList (s := s)]
    rfl
  rw [toUtf8, hbytes, ByteArray.toList, toList_loop, List.reverse_nil, List.nil_append,
    List.drop_zero, List.toList_data_toByteArray]

/-! ### One character -/

/-- Two byte sequences differ at some place, and there the first has the smaller byte. -/
def Differ (first second : List UInt8) : Prop :=
  ∃ (common : List UInt8) (a b : UInt8) (firstRest secondRest : List UInt8),
    first = common ++ a :: firstRest ∧ second = common ++ b :: secondRest ∧ a < b

namespace Differ

variable {first second : List UInt8}

theorem head {a b : UInt8} (h : a < b) : Differ (a :: first) (b :: second) :=
  ⟨[], a, b, first, second, rfl, rfl, h⟩

theorem cons (a : UInt8) (h : Differ first second) : Differ (a :: first) (a :: second) := by
  obtain ⟨common, b, c, firstRest, secondRest, rfl, rfl, hlt⟩ := h
  exact ⟨a :: common, b, c, firstRest, secondRest, rfl, rfl, hlt⟩

theorem lt_append (h : Differ first second) (firstRest secondRest : List UInt8) :
    first ++ firstRest < second ++ secondRest := by
  obtain ⟨common, a, b, _, _, rfl, rfl, hlt⟩ := h
  rw [List.append_assoc, List.append_assoc]
  exact List.append_left_lt (List.Lex.rel hlt)

end Differ

/-- A smaller first byte makes the difference; an equal one leaves it to the rest. -/
theorem Differ.step {first second : List UInt8} {a b : Nat} (hle : a ≤ b) (hb : b < 256)
    (hrest : a = b → Differ first second) :
    Differ (UInt8.ofNat a :: first) (UInt8.ofNat b :: second) := by
  rcases Nat.lt_or_eq_of_le hle with hlt | heq
  · refine .head ?_
    rw [UInt8.lt_iff_toNat_lt, UInt8.toNat_ofNat', UInt8.toNat_ofNat']
    omega
  · rw [heq]
    exact .cons _ (hrest heq)

/-- The encodings of two characters differ, and the smaller has the smaller byte there. -/
theorem differ_of_lt {c d : Char} (h : c < d) :
    Differ (String.utf8EncodeChar c) (String.utf8EncodeChar d) := by
  have hlt : c.val.toNat < d.val.toNat := h
  have hd : d.val.toNat < 0x110000 := by
    have hvalid := d.valid
    rcases hvalid with hvalid | ⟨-, hvalid⟩
    · exact Nat.lt_trans hvalid (by decide)
    · exact hvalid
  unfold String.utf8EncodeChar
  generalize c.val.toNat = v at hlt ⊢
  generalize d.val.toNat = w at hlt hd ⊢
  dsimp only
  -- The first byte tells encodings of different lengths apart. In those of one length the
  -- bytes are the digits of the two numbers.
  by_cases hv1 : v ≤ 0x7f
  · rw [if_pos hv1]
    by_cases hw1 : w ≤ 0x7f
    · rw [if_pos hw1]
      exact .step (by omega) (by omega) fun _ => by omega
    · rw [if_neg hw1]
      split
      · exact .step (by omega) (by omega) fun _ => by omega
      · split
        · exact .step (by omega) (by omega) fun _ => by omega
        · exact .step (by omega) (by omega) fun _ => by omega
  · rw [if_neg hv1, if_neg (show ¬ w ≤ 0x7f by omega)]
    by_cases hv2 : v ≤ 0x7ff
    · rw [if_pos hv2]
      by_cases hw2 : w ≤ 0x7ff
      · rw [if_pos hw2]
        exact .step (by omega) (by omega) fun _ =>
          .step (by omega) (by omega) fun _ => by omega
      · rw [if_neg hw2]
        split
        · exact .step (by omega) (by omega) fun _ => by omega
        · exact .step (by omega) (by omega) fun _ => by omega
    · rw [if_neg hv2, if_neg (show ¬ w ≤ 0x7ff by omega)]
      by_cases hv3 : v ≤ 0xffff
      · rw [if_pos hv3]
        by_cases hw3 : w ≤ 0xffff
        · rw [if_pos hw3]
          exact .step (by omega) (by omega) fun _ =>
            .step (by omega) (by omega) fun _ =>
            .step (by omega) (by omega) fun _ => by omega
        · rw [if_neg hw3]
          exact .step (by omega) (by omega) fun _ => by omega
      · rw [if_neg hv3, if_neg (show ¬ w ≤ 0xffff by omega)]
        exact .step (by omega) (by omega) fun _ =>
          .step (by omega) (by omega) fun _ =>
          .step (by omega) (by omega) fun _ =>
          .step (by omega) (by omega) fun _ => by omega

/-! ### Whole texts -/

/-- The bytes of characters come in the order of the characters. -/
theorem flatMap_utf8_lt {cs ds : List Char} (h : cs < ds) :
    cs.flatMap String.utf8EncodeChar < ds.flatMap String.utf8EncodeChar := by
  induction h with
  | @nil d ds =>
    rw [List.flatMap_nil, List.flatMap_cons]
    cases hfirst : String.utf8EncodeChar d with
    | nil => exact absurd hfirst String.utf8EncodeChar_ne_nil
    | cons first rest => exact List.nil_lt_cons _ _
  | cons h ih => exact List.append_left_lt ih
  | rel h => exact (differ_of_lt h).lt_append _ _

/-- Texts come in the order of their bytes. -/
theorem toUtf8_lt_toUtf8 {s t : String} (h : s < t) : toUtf8 s < toUtf8 t := by
  rw [toUtf8_eq_flatMap, toUtf8_eq_flatMap]
  exact flatMap_utf8_lt h

end ClusterProvision.Text
