import Concordance.Text.Utf8

/-!
Reading what was encoded. The octets of a text are read back as that text, although a file is read in
pieces and the end of a piece may fall inside a character: what is carried over to the next piece is
always the beginning of the next character, and never a whole one.
-/
namespace Concordance.Utf8Reading
open Utf8

/-! ## One character -/

/-- Octets that complete a character: the first one lies in the given range, all later ones are
continuation octets, and together with the value so far they give the result. -/
inductive Completes : Nat → UInt8 → UInt8 → List UInt8 → Nat → Prop where
  | done {value : Nat} {low high : UInt8} : Completes value low high [] value
  | more {value result : Nat} {low high b : UInt8} {rest : List UInt8} :
      low ≤ b → b ≤ high → Completes (value * 64 + b.toNat % 64) 0x80 0xBF rest result →
      Completes value low high (b :: rest) result

theorem follow_complete {value result length : Nat} {low high : UInt8} {tail : List UInt8}
    (completes : Completes value low high tail result) (rest : List UInt8) :
    follow tail.length length value low high (tail ++ rest) =
      .char (Char.ofNat result) (length + tail.length) := by
  induction completes generalizing length with
  | done => cases rest <;> simp [follow]
  | more atLeast atMost _ ih =>
    simp only [List.cons_append, List.length_cons, follow, atLeast, atMost, and_self, ↓reduceIte, ih]
    rw [Nat.add_assoc, Nat.add_comm 1]

/-- The beginning of what completes a character is recognised as such. -/
theorem follow_incomplete {value result length : Nat} {low high : UInt8} {tail part : List UInt8}
    (completes : Completes value low high tail result) (ahead : part <+: tail)
    (short : part.length < tail.length) :
    follow tail.length length value low high part = .incomplete := by
  induction completes generalizing length part with
  | done => cases short
  | more atLeast atMost _ ih =>
    cases part with
    | nil => simp [follow]
    | cons b part =>
      obtain ⟨rfl, later⟩ := List.cons_prefix_cons.mp ahead
      simp only [List.length_cons, follow, atLeast, atMost, and_self, ↓reduceIte]
      exact ih later (Nat.lt_of_succ_lt_succ short)

private theorem to_nat_of_nat {n : Nat} (small : n < 256) : (UInt8.ofNat n).toNat = n := by
  rw [UInt8.toNat_ofNat', Nat.mod_eq_of_lt small]

/-- A continuation octet carries six bits. -/
private theorem continuation_bits {m : Nat} (small : m < 64) :
    (UInt8.ofNat (0x80 + m)).toNat = 0x80 + m ∧ (UInt8.ofNat (0x80 + m)).toNat % 64 = m := by
  rw [to_nat_of_nat (by omega)]
  omega

private theorem lead_one {n : Nat} (high : n < 0x80) :
    lead? (UInt8.ofNat n) = some (0, n, 0x80, 0xBF) := by
  simp only [lead?, UInt8.lt_iff_toNat_lt, to_nat_of_nat (Nat.lt_trans high (by decide)),
    UInt8.reduceToNat, if_pos high]

private theorem lead_two {n : Nat} (low : 2 ≤ n) (high : n < 0x20) :
    lead? (UInt8.ofNat (0xC0 + n)) = some (1, n, 0x80, 0xBF) := by
  simp only [lead?, UInt8.lt_iff_toNat_lt, to_nat_of_nat (show 0xC0 + n < 256 by omega),
    UInt8.reduceToNat]
  rw [if_neg (by omega), if_neg (by omega), if_pos (by omega), Nat.add_sub_cancel_left]

private theorem lead_three {n : Nat} (high : n < 0x10) :
    lead? (UInt8.ofNat (0xE0 + n)) =
      some (2, n, if n = 0 then 0xA0 else 0x80, if n = 0xD then 0x9F else 0xBF) := by
  simp only [lead?, UInt8.lt_iff_toNat_lt, ← UInt8.toNat_inj,
    to_nat_of_nat (show 0xE0 + n < 256 by omega), UInt8.reduceToNat]
  grind

private theorem lead_four {n : Nat} (high : n ≤ 4) :
    lead? (UInt8.ofNat (0xF0 + n)) =
      some (3, n, if n = 0 then 0x90 else 0x80, if n = 4 then 0x8F else 0xBF) := by
  simp only [lead?, UInt8.lt_iff_toNat_lt, ← UInt8.toNat_inj,
    to_nat_of_nat (show 0xF0 + n < 256 by omega), UInt8.reduceToNat]
  grind

private theorem scalar_value (c : Char) :
    c.toNat < 0xD800 ∨ 0xDFFF < c.toNat ∧ c.toNat < 0x110000 := c.valid

private theorem completes_more {value result m : Nat} {low high : UInt8} {rest : List UInt8}
    (small : m < 64) (atLeast : low.toNat ≤ 0x80 + m) (atMost : 0x80 + m ≤ high.toNat)
    (later : Completes (value * 64 + m) 0x80 0xBF rest result) :
    Completes value low high (UInt8.ofNat (0x80 + m) :: rest) result := by
  obtain ⟨whole, bits⟩ := continuation_bits small
  refine .more ?_ ?_ ?_
  · rw [UInt8.le_iff_toNat_le, whole]
    exact atLeast
  · rw [UInt8.le_iff_toNat_le, whole]
    exact atMost
  · rw [bits]
    exact later

private theorem completes_one {value result m : Nat} {low high : UInt8} (small : m < 64)
    (atLeast : low.toNat ≤ 0x80 + m) (atMost : 0x80 + m ≤ high.toNat)
    (same : value * 64 + m = result) :
    Completes value low high [UInt8.ofNat (0x80 + m)] result :=
  completes_more small atLeast atMost (same ▸ .done)

/-- A character is written as a lead octet and octets that complete it. -/
theorem encode_char_shape (c : Char) :
    ∃ b tail value low high, encodeChar c = b :: tail ∧
      lead? b = some (tail.length, value, low, high) ∧ Completes value low high tail c.toNat := by
  have valid := scalar_value c
  unfold encodeChar
  generalize c.toNat = n at valid
  dsimp only
  by_cases one : n < 0x80
  · rw [if_pos one]
    exact ⟨_, [], n, _, _, rfl, lead_one one, .done⟩
  rw [if_neg one]
  by_cases two : n < 0x800
  · rw [if_pos two]
    refine ⟨_, _, n / 64, _, _, rfl, lead_two (by omega) (by omega), ?_⟩
    exact completes_one (Nat.mod_lt _ (by decide)) (Nat.le_add_right _ _) (by simp; omega) (by omega)
  rw [if_neg two]
  by_cases three : n < 0x10000
  · rw [if_pos three]
    refine ⟨_, _, n / 0x1000, _, _, rfl, lead_three (by omega), ?_⟩
    refine completes_more (Nat.mod_lt _ (by decide)) ?_ ?_
      (completes_one (Nat.mod_lt _ (by decide)) (Nat.le_add_right _ _) (by simp; omega) ?_)
    · split <;> simp
      omega
    · split <;> simp <;> omega
    · omega
  rw [if_neg three]
  refine ⟨_, _, n / 0x40000, _, _, rfl, lead_four (by omega), ?_⟩
  refine completes_more (Nat.mod_lt _ (by decide)) ?_ ?_
    (completes_more (Nat.mod_lt _ (by decide)) (Nat.le_add_right _ _) (by simp; omega)
      (completes_one (Nat.mod_lt _ (by decide)) (Nat.le_add_right _ _) (by simp; omega) ?_))
  · split <;> simp
    omega
  · split <;> simp <;> omega
  · omega

theorem item_encode_char (c : Char) (rest : List UInt8) :
    ∃ b tail, encodeChar c = b :: tail ∧ item b (tail ++ rest) = .char c (1 + tail.length) := by
  obtain ⟨b, tail, value, low, high, shape, lead, completes⟩ := encode_char_shape c
  refine ⟨b, tail, shape, ?_⟩
  rw [item, lead]
  dsimp only
  rw [follow_complete completes, Char.ofNat_toNat]

theorem item_incomplete {c : Char} {b : UInt8} {part : List UInt8}
    (ahead : b :: part <+: encodeChar c) (short : (b :: part).length < (encodeChar c).length) :
    item b part = .incomplete := by
  obtain ⟨lead, tail, value, low, high, shape, found, completes⟩ := encode_char_shape c
  rw [shape] at ahead short
  obtain ⟨rfl, later⟩ := List.cons_prefix_cons.mp ahead
  rw [item, found]
  exact follow_incomplete completes later (Nat.lt_of_succ_lt_succ short)

/-! ## Characters in a row -/

/-- The octets do not hold the first character of the text, if there is one. -/
def Short (part : List UInt8) (t : Text) : Prop :=
  ∀ c ∈ t.head?, part.length < (encodeChar c).length

theorem encode_cons (c : Char) (t : Text) : encode (c :: t) = encodeChar c ++ encode t :=
  List.flatMap_cons

theorem encode_append (before after : Text) :
    encode (before ++ after) = encode before ++ encode after :=
  List.flatMap_append

/-- Reading goes on until the octets hold no further character. -/
theorem decode_while_encode {position : Nat} {t later : Text} {part : List UInt8}
    (ahead : part <+: encode later) (short : Short part later) :
    decodeWhile position (encode t ++ part) = (t, ⟨part, none⟩) := by
  induction t generalizing position with
  | nil =>
    cases part with
    | nil => rw [encode, List.flatMap_nil, List.nil_append, decodeWhile]
    | cons b part =>
      cases later with
      | nil => cases List.prefix_nil.mp ahead
      | cons c later =>
        have inside : b :: part <+: encodeChar c := by
          rw [encode_cons] at ahead
          exact List.prefix_of_prefix_length_le ahead (List.prefix_append _ _)
            (Nat.le_of_lt (short c rfl))
        rw [encode, List.flatMap_nil, List.nil_append, decodeWhile,
          item_incomplete inside (short c rfl)]
  | cons c t ih =>
    obtain ⟨b, tail, shape, found⟩ := item_encode_char c (encode t ++ part)
    rw [encode_cons, shape, List.append_assoc, List.cons_append, decodeWhile, found]
    dsimp only
    rw [Nat.add_sub_cancel_left, List.drop_left, ih]

/-- The beginning of an encoded text holds some whole characters, and a part of the next one. -/
theorem encode_cut {t : Text} {octets : List UInt8} (ahead : octets <+: encode t) :
    ∃ before after part, t = before ++ after ∧ octets = encode before ++ part ∧
      part <+: encode after ∧ Short part after := by
  induction t generalizing octets with
  | nil =>
    cases List.prefix_nil.mp ahead
    exact ⟨[], [], [], rfl, rfl, List.nil_prefix, fun c found => by cases found⟩
  | cons c t ih =>
    by_cases short : octets.length < (encodeChar c).length
    · refine ⟨[], c :: t, octets, rfl, rfl, ahead, fun other found => ?_⟩
      cases found
      exact short
    · rw [encode_cons] at ahead
      obtain ⟨later, rfl⟩ := List.prefix_of_prefix_length_le (List.prefix_append _ _) ahead
        (Nat.le_of_not_lt short)
      obtain ⟨before, after, part, rfl, rfl, inside, shortPart⟩ :=
        ih (List.prefix_append_right_inj _ |>.mp ahead)
      refine ⟨c :: before, after, part, rfl, ?_, inside, shortPart⟩
      rw [encode_cons, List.append_assoc]

/-- Reading piece by piece, with the beginning of a character carried over. -/
private theorem read_pieces_encode {t : Text} {carried octets : List UInt8}
    (whole : carried ++ octets = encode t) (short : Short carried t) :
    readPieces carried octets = ⟨t, none⟩ := by
  -- On the octets that are left; the part that is carried over stays short of a character.
  induction length : octets.length using Nat.strongRecOn generalizing t carried octets with
  | _ n ih =>
    unfold readPieces
    by_cases done : octets = []
    · subst done
      rw [dif_pos rfl]
      rw [List.append_nil] at whole
      cases t with
      | nil => rw [whole]; rfl
      | cons c t =>
        have enough := short c rfl
        rw [whole, encode_cons, List.length_append] at enough
        omega
    · rw [dif_neg done]
      have ahead : carried ++ octets.take pieceLength <+: encode t :=
        ⟨octets.drop pieceLength, by rw [List.append_assoc, List.take_append_drop, whole]⟩
      obtain ⟨before, after, part, rfl, cut, inside, shortPart⟩ := encode_cut ahead
      have left : part ++ octets.drop pieceLength = encode after := by
        apply @List.append_cancel_left _ (encode before)
        rw [← List.append_assoc, ← cut, List.append_assoc, List.take_append_drop, whole,
          encode_append]
      have fewer : (octets.drop pieceLength).length < n := by
        have some := List.length_pos_iff.mpr done
        rw [List.length_drop, pieceLength]
        omega
      rw [cut, decode_while_encode inside shortPart]
      dsimp only
      rw [ih _ fewer left shortPart rfl]

/-- An encoded text is read back as it was. -/
theorem read_encode (t : Text) : read (encode t) = ⟨t, none⟩ := by
  refine read_pieces_encode (List.nil_append _) fun c _ => ?_
  obtain ⟨b, tail, _, _, _, shape, _⟩ := encode_char_shape c
  simp [shape]

end Concordance.Utf8Reading
