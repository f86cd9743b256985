import RemoteBatch.Proofs.Text.Utf8

/-! What reads as UTF-8 is what the text that it reads as is written as. -/

namespace RemoteBatch.Utf8

variable {a b c d : UInt8} {t : Bytes}

lemma toNat_ofNat {v : Nat} (h : v < 0xD800 ∨ 0xDFFF < v ∧ v < 0x110000) :
    (Char.ofNat v).val.toNat = v := by
  have hv : v.isValidChar := h
  rw [Char.ofNat, dif_pos hv]
  rfl

lemma eq_ofNat {n : Nat} (h : n = a.toNat) : UInt8.ofNat n = a := by
  rw [h, UInt8.ofNat_toNat]

lemma encodeChar_one (h : a.toNat < 0x80) : String.utf8EncodeChar (Char.ofNat a.toNat) = [a] := by
  unfold String.utf8EncodeChar
  rw [toNat_ofNat (by omega), if_pos (by omega), eq_ofNat rfl]

lemma encodeChar_two (h : 0xC2 ≤ a.toNat) (h' : a.toNat ≤ 0xDF) (hb : 0x80 ≤ b.toNat)
    (hb' : b.toNat ≤ 0xBF) :
    String.utf8EncodeChar (Char.ofNat (a.toNat % 32 * 64 + b.toNat % 64)) = [a, b] := by
  unfold String.utf8EncodeChar
  rw [toNat_ofNat (by omega), if_neg (by omega), if_pos (by omega), eq_ofNat (a := a) (by omega),
    eq_ofNat (a := b) (by omega)]

lemma encodeChar_three (h : 0xE0 ≤ a.toNat) (h' : a.toNat ≤ 0xEF) (hb : 0x80 ≤ b.toNat)
    (hb' : b.toNat ≤ 0xBF) (h0 : a.toNat = 0xE0 → 0xA0 ≤ b.toNat)
    (hd : a.toNat = 0xED → b.toNat ≤ 0x9F) (hc : 0x80 ≤ c.toNat) (hc' : c.toNat ≤ 0xBF) :
    String.utf8EncodeChar
      (Char.ofNat (a.toNat % 16 * 4096 + b.toNat % 64 * 64 + c.toNat % 64)) = [a, b, c] := by
  unfold String.utf8EncodeChar
  rw [toNat_ofNat (by omega), if_neg (by omega), if_neg (by omega), if_pos (by omega),
    eq_ofNat (a := a) (by omega), eq_ofNat (a := b) (by omega), eq_ofNat (a := c) (by omega)]

lemma encodeChar_four (h : 0xF0 ≤ a.toNat) (h' : a.toNat ≤ 0xF4) (hb : 0x80 ≤ b.toNat)
    (hb' : b.toNat ≤ 0xBF) (h0 : a.toNat = 0xF0 → 0x90 ≤ b.toNat)
    (h4 : a.toNat = 0xF4 → b.toNat ≤ 0x8F) (hc : 0x80 ≤ c.toNat) (hc' : c.toNat ≤ 0xBF)
    (hd : 0x80 ≤ d.toNat) (hd' : d.toNat ≤ 0xBF) :
    String.utf8EncodeChar (Char.ofNat (a.toNat % 8 * 262144 + b.toNat % 64 * 4096 +
      c.toNat % 64 * 64 + d.toNat % 64)) = [a, b, c, d] := by
  unfold String.utf8EncodeChar
  rw [toNat_ofNat (by omega), if_neg (by omega), if_neg (by omega), if_neg (by omega),
    eq_ofNat (a := a) (by omega), eq_ofNat (a := b) (by omega), eq_ofNat (a := c) (by omega),
    eq_ofNat (a := d) (by omega)]

lemma range_of_lead? {l : Nat × UInt8 × UInt8} (h : lead? a = some l) :
    0xC2 ≤ a.toNat ∧ a.toNat ≤ 0xF4 := by
  have hd : ∀ n : Fin 256, (lead? (UInt8.ofNat n)).isSome → 0xC2 ≤ n.val ∧ n.val ≤ 0xF4 := by
    decide +kernel
  apply hd ⟨a.toNat, a.toNat_lt_size⟩
  simp [h]

lemma range_of_isContinuation (h : isContinuation c) : 0x80 ≤ c.toNat ∧ c.toNat ≤ 0xBF := by
  simpa [isContinuation, UInt8.le_iff_toNat_le] using h

section Front

variable {x : Char} {n m : Nat} {lo hi : UInt8} (ha : ¬a < 0x80) (hl : lead? a = some (m, lo, hi))

include ha hl

lemma second_of_front (h : front a t = (some x, n)) :
    ∃ b t', t = b :: t' ∧ lo.toNat ≤ b.toNat ∧ b.toNat ≤ hi.toNat := by
  unfold front at h
  rw [if_neg ha, hl] at h
  rcases t with - | ⟨b, t'⟩
  · cases h
  · refine ⟨b, t', rfl, ?_⟩
    by_cases hb : (b < lo || hi < b) = true
    · simp [hb] at h
    · simpa [UInt8.lt_iff_toNat_lt] using hb

lemma third_of_front (hm : m ≠ 1) (h : front a (b :: t) = (some x, n)) :
    ∃ c t', t = c :: t' ∧ 0x80 ≤ c.toNat ∧ c.toNat ≤ 0xBF := by
  unfold front at h
  rw [if_neg ha, hl] at h
  dsimp only at h
  rw [if_neg hm] at h
  split at h
  · cases h
  rcases t with - | ⟨c, t'⟩
  · cases h
  · refine ⟨c, t', rfl, ?_⟩
    by_cases hc : isContinuation c
    · exact range_of_isContinuation hc
    · simp [hc] at h

lemma fourth_of_front (hm : m ≠ 1) (hm' : m ≠ 2) (h : front a (b :: c :: t) = (some x, n)) :
    ∃ d t', t = d :: t' ∧ 0x80 ≤ d.toNat ∧ d.toNat ≤ 0xBF := by
  unfold front at h
  rw [if_neg ha, hl] at h
  dsimp only at h
  rw [if_neg hm, if_neg hm'] at h
  split at h
  · cases h
  split at h
  · cases h
  rcases t with - | ⟨d, t'⟩
  · cases h
  · refine ⟨d, t', rfl, ?_⟩
    by_cases hd : isContinuation d
    · exact range_of_isContinuation hd
    · simp [hd] at h

end Front

lemma encodeChar_of_front {x : Char} {n : Nat} (h : front a t = (some x, n)) :
    n ≤ t.length ∧ String.utf8EncodeChar x = a :: t.take n := by
  by_cases ha : a.toNat < 0x80
  · rw [front_one ha] at h
    cases h
    exact ⟨Nat.zero_le _, encodeChar_one ha⟩
  have hlead : ¬a < 0x80 := not_lt_of_lead (by omega)
  obtain ⟨l, hl⟩ : ∃ l, lead? a = some l := by
    cases hl : lead? a with
    | some l => exact ⟨l, rfl⟩
    | none =>
      unfold front at h
      rw [if_neg hlead, hl] at h
      cases h
  obtain ⟨hlo, hhi⟩ := range_of_lead? hl
  -- The lead byte tells how many bytes follow.
  by_cases htwo : a.toNat ≤ 0xDF
  · obtain ⟨b, t, rfl, hb, hb'⟩ := second_of_front hlead (lead?_two hlo htwo) h
    have hf := front_two (t := t) hlo htwo hb hb'
    rw [h] at hf
    cases hf
    exact ⟨by simp, encodeChar_two hlo htwo hb hb'⟩
  by_cases hthree : a.toNat ≤ 0xEF
  · have hlead3 := lead?_three (a := a) (by omega) hthree
    obtain ⟨b, t, rfl, hb, hb'⟩ := second_of_front hlead hlead3 h
    obtain ⟨c, t, rfl, hc, hc'⟩ := third_of_front hlead hlead3 (by simp) h
    obtain ⟨hmin, h0⟩ : 0x80 ≤ b.toNat ∧ (a.toNat = 0xE0 → 0xA0 ≤ b.toNat) := by
      split_ifs at hb with h0 <;> simp at hb <;> omega
    obtain ⟨hmax, hd⟩ : b.toNat ≤ 0xBF ∧ (a.toNat = 0xED → b.toNat ≤ 0x9F) := by
      split_ifs at hb' with hd <;> simp at hb' <;> omega
    have hf := front_three (t := t) (by omega) hthree hmin hmax h0 hd
      (isContinuation_of_range hc hc')
    rw [h] at hf
    cases hf
    exact ⟨by simp, encodeChar_three (by omega) hthree hmin hmax h0 hd hc hc'⟩
  · have hlead4 := lead?_four (a := a) (by omega) hhi
    obtain ⟨b, t, rfl, hb, hb'⟩ := second_of_front hlead hlead4 h
    obtain ⟨c, t, rfl, hc, hc'⟩ := third_of_front hlead hlead4 (by simp) h
    obtain ⟨d, t, rfl, hd, hd'⟩ := fourth_of_front hlead hlead4 (by simp) (by simp) h
    obtain ⟨hmin, h0⟩ : 0x80 ≤ b.toNat ∧ (a.toNat = 0xF0 → 0x90 ≤ b.toNat) := by
      split_ifs at hb with h0 <;> simp at hb <;> omega
    obtain ⟨hmax, h4⟩ : b.toNat ≤ 0xBF ∧ (a.toNat = 0xF4 → b.toNat ≤ 0x8F) := by
      split_ifs at hb' with h4 <;> simp at hb' <;> omega
    have hf := front_four (t := t) (by omega) hhi hmin hmax h0 h4
      (isContinuation_of_range hc hc') (isContinuation_of_range hd hd')
    rw [h] at hf
    cases hf
    exact ⟨by simp, encodeChar_four (by omega) hhi hmin hmax h0 h4 hc hc' hd hd'⟩

lemma scanFrom_drop (n : Nat) (bs : Bytes) : scanFrom n bs = scan (bs.drop n) := by
  induction bs generalizing n with
  | nil => cases n <;> rfl
  | cons a bs ih =>
    cases n with
    | zero => rfl
    | succ n => exact ih n

lemma encodeChars_of_scan {bs : Bytes} {cs : List Char} (h : scan bs = cs.map some) :
    encodeChars cs = bs := by
  induction cs generalizing bs with
  | nil =>
    cases bs with
    | nil => rfl
    | cons a t => cases h
  | cons x cs ih =>
    cases bs with
    | nil => cases h
    | cons a t =>
      obtain ⟨hx, ht⟩ := List.cons.inj h
      obtain ⟨hn, he⟩ := encodeChar_of_front (n := (front a t).2) (Prod.ext hx rfl)
      rw [scanFrom_drop] at ht
      rw [encodeChars, List.flatMap_cons, he]
      change a :: List.take _ t ++ encodeChars cs = _
      rw [ih ht, List.cons_append, List.take_append_drop]

lemma eq_map_some_of_mapM {α : Type} {os : List (Option α)} {cs : List α}
    (h : os.mapM id = some cs) : os = cs.map some := by
  induction os generalizing cs with
  | nil =>
    cases h
    rfl
  | cons o os ih =>
    simp only [List.mapM_cons, id_eq, Option.bind_eq_bind, Option.bind_eq_some_iff] at h
    obtain ⟨x, rfl, xs, hxs, h⟩ := h
    cases h
    rw [ih hxs]
    rfl

lemma encode_of_decode? {bs : Bytes} {s : String} (h : decode? bs = some s) : encode s = bs := by
  obtain ⟨cs, hcs, rfl⟩ := Option.map_eq_some_iff.1 h
  rw [encode, String.toList_ofList]
  exact encodeChars_of_scan (eq_map_some_of_mapM hcs)

lemma encode_decodeLossy {bs : Bytes} (h : isValid bs) : encode (decodeLossy bs) = bs := by
  rw [encode, decodeLossy, String.toList_ofList]
  apply encodeChars_of_scan
  rw [decodeLossyChars, List.map_map]
  refine (List.map_id (scan bs)).symm.trans (List.map_congr_left fun o ho => ?_)
  obtain ⟨c, rfl⟩ := Option.isSome_iff_exists.1 (List.all_eq_true.1 h o ho)
  rfl

def asText (bs : Bytes) : Bytes := encode (decodeLossy bs)

lemma asText_of_isValid {bs : Bytes} (h : isValid bs) : asText bs = bs := encode_decodeLossy h

lemma isValid_encode (s : String) : isValid (encode s) := by
  have h := isValid_encode_append s []
  rwa [List.append_nil] at h

lemma asText_encode (s : String) : asText (encode s) = encode s :=
  asText_of_isValid (isValid_encode s)

lemma mem_of_mem_scanFrom {x : Char} {n : Nat} {bs : Bytes} (h : some x ∈ scanFrom n bs)
    {b : UInt8} (hb : b ∈ String.utf8EncodeChar x) : b ∈ bs := by
  induction bs generalizing n with
  | nil => cases n <;> cases h
  | cons a t ih =>
    cases n with
    | succ n => exact List.mem_cons_of_mem a (ih h)
    | zero =>
      rcases List.mem_cons.1 h with hx | h
      · obtain ⟨-, he⟩ := encodeChar_of_front (n := (front a t).2) (Prod.ext hx.symm rfl)
        rw [he] at hb
        rcases List.mem_cons.1 hb with rfl | hb
        · exact List.mem_cons_self
        · exact List.mem_cons_of_mem a (List.mem_of_mem_take hb)
      · exact List.mem_cons_of_mem a (ih h)

lemma ofNat_ne_replacement {b : UInt8} (h : b.toNat < 0x80) : Char.ofNat b.toNat ≠ '\ufffd' := by
  intro he
  have hn := congrArg (·.val.toNat) he
  have hr : '\ufffd'.val.toNat = 0xFFFD := rfl
  simp only [toNat_ofNat (v := b.toNat) (by omega), hr] at hn
  omega

lemma mem_of_mem_asText {b : UInt8} {bs : Bytes} (hb : b ∈ asText bs) (h : b.toNat < 0x80) :
    b ∈ bs := by
  have hx := mem_of_mem_encode hb h
  rw [decodeLossy, String.toList_ofList] at hx
  obtain ⟨o, ho, hx⟩ := List.mem_map.1 hx
  cases o with
  | none => exact absurd hx.symm (ofNat_ne_replacement h)
  | some x =>
    obtain rfl : x = Char.ofNat b.toNat := hx
    apply mem_of_mem_scanFrom ho
    rw [encodeChar_one h]
    exact List.mem_singleton_self b

lemma asText_eq (bs : Bytes) : asText bs = encodeChars (decodeLossyChars bs) := by
  rw [asText, encode, decodeLossy, String.toList_ofList]

lemma asText_append_of_lt {a : UInt8} (ha : a < 0x80) (bs t : Bytes) :
    ∃ front, asText (bs ++ a :: t) = front ++ a :: asText t := by
  have hlast : (decodeLossyChars (bs ++ [a])).getLast? = some (Char.ofNat a.toNat) := by
    rw [decodeLossyChars, List.getLast?_map, scan, getLast?_scanFrom_of_lt ha bs (Nat.zero_le _)]
    rfl
  obtain ⟨cs, hcs⟩ := List.getLast?_eq_some_iff.1 hlast
  have happend : decodeLossyChars (bs ++ a :: t) =
      cs ++ [Char.ofNat a.toNat] ++ decodeLossyChars t := by
    rw [← hcs, decodeLossyChars, List.append_cons, scan_append_of_lt ha, List.map_append]
    rfl
  refine ⟨encodeChars cs, ?_⟩
  rw [asText_eq, happend, encodeChars_append, encodeChars_append, asText_eq, List.append_assoc]
  congr 1
  rw [encodeChars, List.flatMap_singleton, encodeChar_one (UInt8.lt_iff_toNat_lt.1 ha)]
  rfl

lemma asText_ne_nil {bs : Bytes} (h : bs ≠ []) : asText bs ≠ [] := by
  obtain ⟨a, t, rfl⟩ := List.exists_cons_of_ne_nil h
  rw [asText_eq, decodeLossyChars, scan, scanFrom, List.map_cons, encodeChars, List.flatMap_cons]
  exact List.append_ne_nil_of_left_ne_nil String.utf8EncodeChar_ne_nil _

lemma isValid_of_asText {bs : Bytes} (h : ∀ b ∈ asText bs, b.toNat < 0x80) : isValid bs := by
  rw [isValid, List.all_eq_true]
  rintro (- | x) ho
  · have hmem : '\ufffd' ∈ (decodeLossy bs).toList := by
      rw [decodeLossy, String.toList_ofList]
      exact List.mem_map.2 ⟨none, ho, rfl⟩
    obtain ⟨b, hb, he⟩ := exists_mem_of_mem_toList h hmem
    exact absurd he.symm (ofNat_ne_replacement (h b hb))
  · rfl

lemma eq_of_asText_eq {bs plain : Bytes} (hp : ∀ b ∈ plain, b.toNat < 0x80)
    (h : asText bs = plain) : bs = plain := by
  have hv : isValid bs := isValid_of_asText (h ▸ hp)
  rw [← h, asText_of_isValid hv]

end RemoteBatch.Utf8
