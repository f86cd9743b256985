import Mathlib.Tactic.Common
import RemoteBatch.Text.Base64

/-! Base64 text is read back, and no byte of it has a meaning elsewhere. -/

namespace RemoteBatch.Base64

lemma value?_symbol {n : Nat} (h : n < 64) : value? (symbol n) = some n := by
  have hd : ∀ n : Fin 64, value? (symbol n) = some n.val := by decide +kernel
  exact hd ⟨n, h⟩

lemma symbol_ne_pad {n : Nat} (h : n < 64) : symbol n ≠ pad := by
  have hd : ∀ n : Fin 64, symbol n ≠ pad := by decide +kernel
  exact hd ⟨n, h⟩

def IsText (b : UInt8) : Prop := 43 ≤ b.toNat ∧ b.toNat ≤ 122

lemma isText_symbol (n : Nat) : IsText (symbol n) := by
  unfold IsText symbol
  split_ifs <;> simp <;> omega

lemma toUInt8_eq {n : Nat} {a : UInt8} (h : n = a.toNat) : n.toUInt8 = a := by
  subst h
  exact UInt8.ofNat_toNat

variable (a b c : UInt8)

lemma fullQuartet?_symbol :
    fullQuartet? (symbol (a.toNat / 4)) (symbol (a.toNat % 4 * 16 + b.toNat / 16))
      (symbol (b.toNat % 16 * 4 + c.toNat / 64)) (symbol (c.toNat % 64)) = some [a, b, c] := by
  have ha := a.toNat_lt
  have hb := b.toNat_lt
  have hc := c.toNat_lt
  rw [fullQuartet?, value?_symbol (by omega), value?_symbol (by omega), value?_symbol (by omega),
    value?_symbol (by omega)]
  simp only [Option.bind_eq_bind, Option.bind_some]
  rw [toUInt8_eq (a := a) (by omega), toUInt8_eq (a := b) (by omega),
    toUInt8_eq (a := c) (by omega)]
  rfl

lemma quartet?_symbol :
    quartet? (symbol (a.toNat / 4)) (symbol (a.toNat % 4 * 16 + b.toNat / 16))
      (symbol (b.toNat % 16 * 4 + c.toNat / 64)) (symbol (c.toNat % 64)) = some [a, b, c] := by
  have hc := c.toNat_lt
  rw [quartet?, if_pos (bne_iff_ne.2 (symbol_ne_pad (by omega))), fullQuartet?_symbol]

lemma quartet?_symbol_pad :
    quartet? (symbol (a.toNat / 4)) (symbol (a.toNat % 4 * 16 + b.toNat / 16))
      (symbol (b.toNat % 16 * 4)) pad = some [a, b] := by
  have ha := a.toNat_lt
  have hb := b.toNat_lt
  rw [quartet?, if_neg (by decide), if_pos (bne_iff_ne.2 (symbol_ne_pad (by omega))),
    value?_symbol (by omega), value?_symbol (by omega), value?_symbol (by omega)]
  simp only [Option.bind_eq_bind, Option.bind_some]
  rw [if_neg (by omega), toUInt8_eq (a := a) (by omega), toUInt8_eq (a := b) (by omega)]
  rfl

lemma quartet?_symbol_pad_pad :
    quartet? (symbol (a.toNat / 4)) (symbol (a.toNat % 4 * 16)) pad pad = some [a] := by
  have ha := a.toNat_lt
  rw [quartet?, if_neg (by decide), if_neg (by decide), value?_symbol (by omega),
    value?_symbol (by omega)]
  simp only [Option.bind_eq_bind, Option.bind_some]
  rw [if_neg (by omega), toUInt8_eq (a := a) (by omega)]
  rfl

lemma encode_cons_cons_cons (bs : Bytes) :
    encode (a :: b :: c :: bs) = symbol (a.toNat / 4) ::
      symbol (a.toNat % 4 * 16 + b.toNat / 16) :: symbol (b.toNat % 16 * 4 + c.toNat / 64) ::
      symbol (c.toNat % 64) :: encode bs := by
  simp only [encode, encodeUnpadded, List.length_cons, List.cons_append]
  rw [show ∀ n, (n + 1 + 1 + 1 + 1) % 4 = n % 4 by omega]

theorem decodeQuartets?_encode (bs : Bytes) : decodeQuartets? (encode bs) = some bs := by
  induction bs using encodeUnpadded.induct with
  | case1 => rfl
  | case2 a =>
    change (do return (← quartet? _ _ pad pad) ++ []) = _
    rw [quartet?_symbol_pad_pad]
    rfl
  | case3 a b =>
    change (do return (← quartet? _ _ _ pad) ++ []) = _
    rw [quartet?_symbol_pad]
    rfl
  | case4 a b c bs ih =>
    rw [encode_cons_cons_cons, decodeQuartets?, quartet?_symbol, ih]
    rfl

lemma exists_symbol_of_mem {bs : Bytes} {x : UInt8} (hx : x ∈ encodeUnpadded bs) :
    ∃ n < 64, x = symbol n := by
  induction bs using encodeUnpadded.induct with
  | case1 => simp [encodeUnpadded] at hx
  | case2 a =>
    have ha := a.toNat_lt
    simp only [encodeUnpadded, List.mem_cons, List.not_mem_nil, or_false] at hx
    rcases hx with rfl | rfl <;> exact ⟨_, by omega, rfl⟩
  | case3 a b =>
    have ha := a.toNat_lt
    have hb := b.toNat_lt
    simp only [encodeUnpadded, List.mem_cons, List.not_mem_nil, or_false] at hx
    rcases hx with rfl | rfl | rfl <;> exact ⟨_, by omega, rfl⟩
  | case4 a b c bs ih =>
    have ha := a.toNat_lt
    have hb := b.toNat_lt
    have hc := c.toNat_lt
    simp only [encodeUnpadded, List.mem_cons] at hx
    rcases hx with rfl | rfl | rfl | rfl | hx
    all_goals first | exact ⟨_, by omega, rfl⟩ | exact ih hx

lemma isText_of_mem_encode {bs : Bytes} {b : UInt8} (hb : b ∈ encode bs) : IsText b := by
  rw [encode, List.mem_append] at hb
  rcases hb with hb | hb
  · obtain ⟨n, -, rfl⟩ := exists_symbol_of_mem hb
    exact isText_symbol n
  · rw [List.eq_of_mem_replicate hb]
    exact ⟨by decide, by decide⟩

lemma lt_of_mem {bs : Bytes} {b : UInt8} (hb : b ∈ encodeUnpadded bs) : b.toNat < 0x80 := by
  have hmem : b ∈ encode bs := List.mem_append_left _ hb
  exact Nat.lt_of_le_of_lt (isText_of_mem_encode hmem).2 (by decide)

lemma isLineBreak_of_isText {b : UInt8} (h : IsText b) : isLineBreak b = false := by
  have hne : ∀ n : UInt8, n.toNat < 43 → (b == n) = false := by
    intro n hn
    refine beq_eq_false_iff_ne.2 fun hb => ?_
    subst hb
    exact absurd h.1 (by omega)
  rw [isLineBreak, hne 10 (by decide), hne 13 (by decide)]
  rfl

theorem decodeMime?_encode (bs : Bytes) : decodeMime? (encode bs) = some bs := by
  have hbs : (encode bs).filter (!isLineBreak ·) = encode bs :=
    List.filter_eq_self.2 fun b hb => by simp [isLineBreak_of_isText (isText_of_mem_encode hb)]
  rw [decodeMime?, hbs, decodeQuartets?_encode]

lemma decodeMime?_append_of_isLineBreak (bs : Bytes) {t : Bytes} (ht : ∀ b ∈ t, isLineBreak b) :
    decodeMime? (bs ++ t) = decodeMime? bs := by
  have ht : t.filter (!isLineBreak ·) = [] :=
    List.filter_eq_nil_iff.2 fun b hb => by simp [ht b hb]
  rw [decodeMime?, List.filter_append, ht, List.append_nil, decodeMime?]

end RemoteBatch.Base64
