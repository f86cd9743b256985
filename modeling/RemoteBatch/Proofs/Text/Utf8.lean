import Mathlib.Tactic.Common
import RemoteBatch.Text.Utf8

/-! Reading back what was written as UTF-8, and reading on behind a valid part. -/

namespace RemoteBatch.Utf8

variable {a b c d : UInt8} {t : Bytes}

lemma lead?_two (h : 0xC2 ≤ a.toNat) (h' : a.toNat ≤ 0xDF) : lead? a = some (1, 0x80, 0xBF) := by
  have hd : ∀ n : Fin 256, 0xC2 ≤ n.val → n.val ≤ 0xDF →
      lead? (UInt8.ofNat n) = some (1, 0x80, 0xBF) := by decide +kernel
  simpa using hd ⟨a.toNat, a.toNat_lt_size⟩ h h'

lemma lead?_three (h : 0xE0 ≤ a.toNat) (h' : a.toNat ≤ 0xEF) :
    lead? a =
      some (2, if a.toNat = 0xE0 then 0xA0 else 0x80, if a.toNat = 0xED then 0x9F else 0xBF) := by
  have hd : ∀ n : Fin 256, 0xE0 ≤ n.val → n.val ≤ 0xEF → lead? (UInt8.ofNat n) =
      some (2, if n.val = 0xE0 then 0xA0 else 0x80, if n.val = 0xED then 0x9F else 0xBF) := by
    decide +kernel
  simpa using hd ⟨a.toNat, a.toNat_lt_size⟩ h h'

lemma lead?_four (h : 0xF0 ≤ a.toNat) (h' : a.toNat ≤ 0xF4) :
    lead? a =
      some (3, if a.toNat = 0xF0 then 0x90 else 0x80, if a.toNat = 0xF4 then 0x8F else 0xBF) := by
  have hd : ∀ n : Fin 256, 0xF0 ≤ n.val → n.val ≤ 0xF4 → lead? (UInt8.ofNat n) =
      some (3, if n.val = 0xF0 then 0x90 else 0x80, if n.val = 0xF4 then 0x8F else 0xBF) := by
    decide +kernel
  simpa using hd ⟨a.toNat, a.toNat_lt_size⟩ h h'

lemma front_one (h : a.toNat < 0x80) : front a t = (some (Char.ofNat a.toNat), 0) := by
  unfold front
  rw [if_pos (UInt8.lt_iff_toNat_lt.2 h)]

lemma not_lt_of_lead (h : 0x80 ≤ a.toNat) : ¬a < 0x80 := by
  rw [UInt8.lt_iff_toNat_lt, Nat.not_lt]
  exact h

lemma isContinuation_of_range (h : 0x80 ≤ c.toNat) (h' : c.toNat ≤ 0xBF) : isContinuation c := by
  simp [isContinuation, UInt8.le_iff_toNat_le, h, h']

lemma front_two (h : 0xC2 ≤ a.toNat) (h' : a.toNat ≤ 0xDF) (hb : 0x80 ≤ b.toNat)
    (hb' : b.toNat ≤ 0xBF) :
    front a (b :: t) = (some (Char.ofNat (a.toNat % 32 * 64 + b.toNat % 64)), 1) := by
  unfold front
  rw [if_neg (not_lt_of_lead (by omega)), lead?_two h h']
  simp [UInt8.lt_iff_toNat_lt, hb, hb', payload]

lemma front_three (h : 0xE0 ≤ a.toNat) (h' : a.toNat ≤ 0xEF) (hb : 0x80 ≤ b.toNat)
    (hb' : b.toNat ≤ 0xBF) (h0 : a.toNat = 0xE0 → 0xA0 ≤ b.toNat)
    (hd : a.toNat = 0xED → b.toNat ≤ 0x9F) (hc : isContinuation c) :
    front a (b :: c :: t) =
      (some (Char.ofNat (a.toNat % 16 * 4096 + b.toNat % 64 * 64 + c.toNat % 64)), 2) := by
  have hlo : ¬b < if a.toNat = 0xE0 then 0xA0 else 0x80 := by
    split_ifs with ha <;> simp [UInt8.lt_iff_toNat_lt, hb, h0, ha]
  have hhi : ¬(if a.toNat = 0xED then 0x9F else 0xBF) < b := by
    split_ifs with ha <;> simp [UInt8.lt_iff_toNat_lt, hb', hd, ha]
  unfold front
  rw [if_neg (not_lt_of_lead (by omega)), lead?_three h h']
  simp [hlo, hhi, hc, payload]

lemma front_four (h : 0xF0 ≤ a.toNat) (h' : a.toNat ≤ 0xF4) (hb : 0x80 ≤ b.toNat)
    (hb' : b.toNat ≤ 0xBF) (h0 : a.toNat = 0xF0 → 0x90 ≤ b.toNat)
    (h4 : a.toNat = 0xF4 → b.toNat ≤ 0x8F) (hc : isContinuation c) (hd : isContinuation d) :
    front a (b :: c :: d :: t) = (some (Char.ofNat (a.toNat % 8 * 262144 + b.toNat % 64 * 4096 +
      c.toNat % 64 * 64 + d.toNat % 64)), 3) := by
  have hlo : ¬b < if a.toNat = 0xF0 then 0x90 else 0x80 := by
    split_ifs with ha <;> simp [UInt8.lt_iff_toNat_lt, hb, h0, ha]
  have hhi : ¬(if a.toNat = 0xF4 then 0x8F else 0xBF) < b := by
    split_ifs with ha <;> simp [UInt8.lt_iff_toNat_lt, hb', h4, ha]
  unfold front
  rw [if_neg (not_lt_of_lead (by omega)), lead?_four h h']
  simp [hlo, hhi, hc, hd, payload]

lemma scanFrom_length_append (bs t : Bytes) : scanFrom bs.length (bs ++ t) = scan t := by
  induction bs with
  | nil => rfl
  | cons b bs ih => exact ih

lemma scan_cons_append {o : Option Char} (bs : Bytes) (h : front a (bs ++ t) = (o, bs.length)) :
    scan (a :: bs ++ t) = o :: scan t := by
  change (front a (bs ++ t)).1 :: scanFrom (front a (bs ++ t)).2 (bs ++ t) = _
  rw [h]
  exact congrArg _ (scanFrom_length_append bs t)

lemma scan_utf8EncodeChar (x : Char) (t : Bytes) :
    scan (String.utf8EncodeChar x ++ t) = some x :: scan t := by
  have hv : x.val.toNat < 0xD800 ∨ 0xDFFF < x.val.toNat ∧ x.val.toNat < 0x110000 := x.valid
  have hx : Char.ofNat x.val.toNat = x := Char.ofNat_toNat x
  unfold String.utf8EncodeChar
  dsimp only
  generalize x.val.toNat = v at *
  have hb (n : Nat) : n < 256 → (UInt8.ofNat n).toNat = n := UInt8.toNat_ofNat_of_lt'
  -- An encoded character has one to four bytes.
  split_ifs with hone htwo hthree
  · have h0 := hb v (by omega)
    apply scan_cons_append
    rw [front_one (by omega), h0, hx]
    rfl
  · have h0 := hb (v / 64 % 32 + 192) (by omega)
    have h1 := hb (v % 64 + 128) (by omega)
    apply scan_cons_append
    refine (front_two (by omega) (by omega) (by omega) (by omega)).trans ?_
    rw [show _ % 32 * 64 + _ = v by omega, hx]
    rfl
  · have h0 := hb (v / 4096 % 16 + 224) (by omega)
    have h1 := hb (v / 64 % 64 + 128) (by omega)
    have h2 := hb (v % 64 + 128) (by omega)
    apply scan_cons_append
    refine (front_three (by omega) (by omega) (by omega) (by omega) (by omega) (by omega)
      (isContinuation_of_range (by omega) (by omega))).trans ?_
    rw [show _ % 16 * 4096 + _ + _ = v by omega, hx]
    rfl
  · have h0 := hb (v / 262144 % 8 + 240) (by omega)
    have h1 := hb (v / 4096 % 64 + 128) (by omega)
    have h2 := hb (v / 64 % 64 + 128) (by omega)
    have h3 := hb (v % 64 + 128) (by omega)
    apply scan_cons_append
    refine (front_four (by omega) (by omega) (by omega) (by omega) (by omega) (by omega)
      (isContinuation_of_range (by omega) (by omega))
      (isContinuation_of_range (by omega) (by omega))).trans ?_
    rw [show _ % 8 * 262144 + _ + _ + _ = v by omega, hx]
    rfl

lemma scan_encodeChars (cs : List Char) (t : Bytes) :
    scan (encodeChars cs ++ t) = cs.map some ++ scan t := by
  induction cs with
  | nil => rfl
  | cons x cs ih =>
    rw [encodeChars, List.flatMap_cons, List.append_assoc, scan_utf8EncodeChar]
    exact congrArg _ ih

lemma encode_append (s s' : String) : encode (s ++ s') = encode s ++ encode s' := by
  rw [encode, String.toList_append, encodeChars_append]
  rfl

lemma scan_encode (s : String) : scan (encode s) = s.toList.map some := by
  have h := scan_encodeChars s.toList []
  rwa [List.append_nil, scan_nil, List.append_nil] at h

lemma decodeLossyChars_encode_append (s : String) (t : Bytes) :
    decodeLossyChars (encode s ++ t) = s.toList ++ decodeLossyChars t := by
  rw [decodeLossyChars, encode, scan_encodeChars, List.map_append, List.map_map]
  simp [decodeLossyChars, Function.comp_def]

@[simp] lemma decode?_encode (s : String) : decode? (encode s) = some s := by
  have h (cs : List Char) : (cs.map some).mapM id = some cs := by
    induction cs with
    | nil => rfl
    | cons c cs ih => simp_all
  rw [decode?, decodeChars?, scan_encode, h, Option.map_some, String.ofList_toList]

lemma decodeLossy_encode (s : String) : decodeLossy (encode s) = s := by
  have hchars := decodeLossyChars_encode_append s []
  rw [List.append_nil] at hchars
  rw [decodeLossy, hchars, decodeLossyChars, scan_nil, List.map_nil, List.append_nil,
    String.ofList_toList]

lemma encode_inj {s s' : String} (h : encode s = encode s') : s = s' := by
  have hs := congrArg scan h
  rw [scan_encode, scan_encode] at hs
  exact String.toList_inj.1 ((List.map_inj_right fun _ _ => Option.some.inj).1 hs)

lemma isValid_encode_append (s : String) (t : Bytes) : isValid (encode s ++ t) = isValid t := by
  simp [isValid, encode, scan_encodeChars]

lemma isValid_cons_of_lt (h : a.toNat < 0x80) : isValid (a :: t) = isValid t := by
  have hs : scan (a :: t) = some (Char.ofNat a.toNat) :: scan t := scan_cons_append [] (front_one h)
  simp [isValid, hs]

lemma isValid_append_of_lt (bs : Bytes) (h : ∀ b ∈ bs, b.toNat < 0x80) :
    isValid (bs ++ t) = isValid t := by
  induction bs with
  | nil => rfl
  | cons a bs ih =>
    rw [List.cons_append, isValid_cons_of_lt (h a (by simp)), ih fun b hb => h b (by simp [hb])]

lemma front_append (bs : Bytes) (h : (front a bs).1.isSome) :
    (front a bs).2 ≤ bs.length ∧ front a (bs ++ t) = front a bs := by
  unfold front at h ⊢
  by_cases ha : a < 0x80
  · simp [ha]
  rw [if_neg ha] at h ⊢
  rw [if_neg ha]
  rcases hl : lead? a with - | ⟨n, lo, hi⟩
  · simp [hl] at h
  rcases bs with - | ⟨b, - | ⟨c, - | ⟨d, bs⟩⟩⟩ <;> grind

lemma scanFrom_append {n : Nat} (bs : Bytes) (hn : n ≤ bs.length)
    (h : (scanFrom n bs).all Option.isSome) : scanFrom n (bs ++ t) = scanFrom n bs ++ scan t := by
  induction bs generalizing n with
  | nil =>
    obtain rfl : n = 0 := Nat.le_zero.1 hn
    rfl
  | cons a bs ih =>
    cases n with
    | succ n => exact ih (Nat.le_of_succ_le_succ hn) h
    | zero =>
      rw [scanFrom, List.all_cons, Bool.and_eq_true] at h
      obtain ⟨hle, heq⟩ := front_append (t := t) bs h.1
      rw [List.cons_append, scanFrom, scanFrom, heq, ih hle h.2]
      rfl

lemma isValid_append {bs : Bytes} (h : isValid bs) : isValid (bs ++ t) = isValid t := by
  rw [isValid, scan, scanFrom_append bs (Nat.zero_le _) h, List.all_append]
  simp only [isValid, scan] at h ⊢
  rw [h, Bool.true_and]

lemma lead?_range {n : Nat} {lo hi : UInt8} (h : lead? a = some (n, lo, hi)) : 0x80 ≤ lo := by
  unfold lead? at h
  split_ifs at h <;> simp at h <;> obtain ⟨-, rfl, -⟩ := h <;> decide

lemma front_append_of_lt (ha : a < 0x80) (bs : Bytes) :
    (front b (bs ++ [a])).2 ≤ bs.length ∧ front b (bs ++ a :: t) = front b (bs ++ [a]) := by
  have hc : isContinuation a = false := by
    simp [isContinuation, UInt8.le_iff_toNat_le, UInt8.lt_iff_toNat_lt] at ha ⊢
    omega
  unfold front
  by_cases hb : b < 0x80
  · simp [hb]
  rw [if_neg hb, if_neg hb]
  rcases hl : lead? b with - | ⟨n, lo, hi⟩
  · simp
  have hlo : a < lo := UInt8.lt_of_lt_of_le ha (lead?_range hl)
  rcases bs with - | ⟨b1, - | ⟨b2, - | ⟨b3, bs⟩⟩⟩
  · simp [hlo]
  · simp only [List.cons_append, List.nil_append, hc]
    split_ifs <;> simp_all
  · simp only [List.cons_append, List.nil_append, hc]
    split_ifs <;> simp_all
  · simp only [List.cons_append, List.length_cons]
    split_ifs <;> simp

lemma scanFrom_append_of_lt (ha : a < 0x80) {n : Nat} (bs : Bytes) (hn : n ≤ bs.length) :
    scanFrom n (bs ++ a :: t) = scanFrom n (bs ++ [a]) ++ scan t := by
  induction bs generalizing n with
  | nil =>
    obtain rfl : n = 0 := Nat.le_zero.1 hn
    simp [scanFrom, front, ha, scan]
  | cons b bs ih =>
    cases n with
    | succ n => exact ih (Nat.le_of_succ_le_succ hn)
    | zero =>
      obtain ⟨hle, heq⟩ := front_append_of_lt (b := b) (t := t) ha bs
      rw [List.cons_append, List.cons_append, scanFrom, scanFrom, heq, ih hle]
      rfl

lemma getLast?_scanFrom_of_lt (ha : a < 0x80) {n : Nat} (bs : Bytes) (hn : n ≤ bs.length) :
    (scanFrom n (bs ++ [a])).getLast? = some (some (Char.ofNat a.toNat)) := by
  induction bs generalizing n with
  | nil =>
    obtain rfl : n = 0 := Nat.le_zero.1 hn
    simp [scanFrom, front, ha]
  | cons b bs ih =>
    cases n with
    | succ n => exact ih (Nat.le_of_succ_le_succ hn)
    | zero =>
      have h := ih (front_append_of_lt (b := b) (t := []) ha bs).1
      rw [List.cons_append, scanFrom, List.getLast?_cons, h]
      rfl

lemma scan_append_of_lt (ha : a < 0x80) (bs : Bytes) :
    scan (bs ++ [a] ++ t) = scan (bs ++ [a]) ++ scan t := by
  rw [List.append_assoc]
  exact scanFrom_append_of_lt ha bs (Nat.zero_le _)

lemma front_of_append (bs : Bytes) (h : (front a (bs ++ t)).1.isSome)
    (hle : (front a (bs ++ t)).2 ≤ bs.length) : front a bs = front a (bs ++ t) := by
  unfold front at h hle ⊢
  by_cases ha : a < 0x80
  · simp [ha]
  rw [if_neg ha] at h hle ⊢
  rw [if_neg ha]
  rcases hl : lead? a with - | ⟨n, lo, hi⟩
  · simp [hl] at h
  rcases bs with - | ⟨b, - | ⟨c, - | ⟨d, bs⟩⟩⟩ <;> grind

lemma scanFrom_of_append_of_lt (ha : a < 0x80) {n : Nat} (bs : Bytes) (hn : n ≤ bs.length)
    (h : (scanFrom n (bs ++ [a])).all Option.isSome) : (scanFrom n bs).all Option.isSome := by
  induction bs generalizing n with
  | nil => cases n <;> rfl
  | cons b bs ih =>
    cases n with
    | succ n => exact ih (Nat.le_of_succ_le_succ hn) h
    | zero =>
      have hle := (front_append_of_lt (b := b) (t := []) ha bs).1
      rw [List.cons_append, scanFrom, List.all_cons, Bool.and_eq_true] at h
      rw [scanFrom, front_of_append bs h.1 hle, List.all_cons, h.1, Bool.true_and]
      exact ih hle h.2

lemma isValid_append_singleton_of_lt (ha : a < 0x80) (bs : Bytes) :
    isValid (bs ++ [a]) = isValid bs := by
  rw [Bool.eq_iff_iff]
  constructor
  · exact scanFrom_of_append_of_lt ha bs (Nat.zero_le _)
  · intro h
    rw [isValid_append h, isValid_cons_of_lt (UInt8.lt_iff_toNat_lt.1 ha)]
    rfl

lemma eq_of_mem_utf8EncodeChar {x : Char} (hb : b ∈ String.utf8EncodeChar x)
    (h : b.toNat < 0x80) : x = Char.ofNat b.toNat := by
  have hx : Char.ofNat x.val.toNat = x := Char.ofNat_toNat x
  have hv : x.val.toNat < 0x110000 := x.valid.elim (by omega) (·.2)
  unfold String.utf8EncodeChar at hb
  dsimp only at hb
  generalize x.val.toNat = v at *
  rw [← hx]
  split_ifs at hb with hone htwo hthree
  · rw [List.mem_singleton.1 hb, UInt8.toNat_ofNat', Nat.mod_eq_of_lt (by omega)]
  all_goals
    simp only [List.mem_cons, List.not_mem_nil, or_false] at hb
    rcases hb with rfl | rfl | rfl | rfl <;> simp at h <;> omega

lemma mem_of_mem_encode {s : String} (hb : b ∈ encode s) (h : b.toNat < 0x80) :
    Char.ofNat b.toNat ∈ s.toList := by
  obtain ⟨x, hx, hb⟩ := List.mem_flatMap.1 hb
  rwa [← eq_of_mem_utf8EncodeChar hb h]

lemma exists_mem_of_mem_toList {s : String} (h : ∀ b ∈ encode s, b.toNat < 0x80) {x : Char}
    (hx : x ∈ s.toList) : ∃ b ∈ encode s, x = Char.ofNat b.toNat := by
  have hmem (b : UInt8) (hb : b ∈ String.utf8EncodeChar x) : b ∈ encode s :=
    List.mem_flatMap.2 ⟨x, hx, hb⟩
  obtain ⟨b, hb⟩ := List.exists_mem_of_ne_nil _ (String.utf8EncodeChar_ne_nil (c := x))
  exact ⟨b, hmem b hb, eq_of_mem_utf8EncodeChar hb (h b (hmem b hb))⟩

lemma head?_of_head?_encode {s : String} (hb : (encode s).head? = some b) (h : b.toNat < 0x80) :
    s.toList.head? = some (Char.ofNat b.toNat) := by
  rcases hs : s.toList with - | ⟨x, cs⟩
  · simp [encode, hs, encodeChars] at hb
  · have hne := List.isSome_head?.2 (String.utf8EncodeChar_ne_nil (c := x))
    obtain ⟨c, hc⟩ := Option.isSome_iff_exists.1 hne
    rw [encode, hs, encodeChars, List.flatMap_cons, List.head?_append, hc] at hb
    obtain rfl : c = b := by simpa using hb
    rw [List.head?_cons, eq_of_mem_utf8EncodeChar (List.mem_of_head? hc) h]

end RemoteBatch.Utf8
