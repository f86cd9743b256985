import Mathlib.Tactic.Common
import RemoteBatch.HostKey.KeyData

/-! A key that was read is read again from its own binary form. -/

namespace RemoteBatch.HostKey

def ReadsBack {α : Type} (read : Bytes → Option (α × Bytes)) (write : α → Bytes) : Prop :=
  ∀ ⦃bs x rest⦄, read bs = some (x, rest) → ∀ t, read (write x ++ t) = some (x, t)

lemma ReadsBack.filter {α : Type} {read : Bytes → Option (α × Bytes)} {write : α → Bytes}
    (h : ReadsBack read write) (p : α → Prop) [DecidablePred p] :
    ReadsBack (fun bs => do
      let (x, rest) ← read bs
      if p x then some (x, rest) else none) write := by
  intro bs x rest hx t
  simp only [Option.bind_eq_bind, Option.bind_eq_some_iff] at hx
  obtain ⟨⟨y, r⟩, hy, hx⟩ := hx
  dsimp only at hx
  split_ifs at hx with hp
  obtain ⟨rfl, rfl⟩ : y = x ∧ r = rest := by simpa using hx
  simp [h hy t, hp]

namespace Field

lemma length?_le {bs rest : Bytes} {n : Nat} (h : length? bs = some (n, rest)) :
    n ≤ maxLength := by
  simp only [length?, Option.bind_eq_bind, Option.bind_eq_some_iff] at h
  obtain ⟨⟨size, r⟩, -, h⟩ := h
  dsimp only at h
  split_ifs at h with hn
  obtain ⟨rfl, -⟩ : _ = n ∧ _ := by simpa using h
  exact hn

lemma length_of_take? {n : Nat} {bs field rest : Bytes} (h : take? n bs = some (field, rest)) :
    field.length = n := by
  unfold take? at h
  split_ifs at h with hn
  obtain ⟨rfl, -⟩ : _ = field ∧ _ := by simpa using h
  exact List.length_take_of_le hn

lemma length_le_of_read? {bs field rest : Bytes} (h : read? bs = some (field, rest)) :
    field.length ≤ maxLength := by
  simp only [read?, Option.bind_eq_bind, Option.bind_eq_some_iff] at h
  obtain ⟨⟨n, r⟩, hn, h⟩ := h
  rw [length_of_take? h]
  exact length?_le hn

lemma readsBack_read? : ReadsBack read? write :=
  fun _ _ _ h t => read?_write _ t (length_le_of_read? h)

lemma readsBack_readUpTo? (limit : Nat) : ReadsBack (readUpTo? limit) write :=
  readsBack_read?.filter (·.length ≤ limit)

lemma length_le_of_readUpTo? {limit : Nat} {bs field rest : Bytes}
    (h : readUpTo? limit bs = some (field, rest)) : field.length ≤ limit := by
  simp only [readUpTo?, Option.bind_eq_bind, Option.bind_eq_some_iff] at h
  obtain ⟨⟨f, r⟩, -, h⟩ := h
  dsimp only at h
  split_ifs at h with hl
  obtain ⟨rfl, -⟩ : f = field ∧ _ := by simpa using h
  exact hl

lemma readUpTo?_write {limit : Nat} {field : Bytes} (t : Bytes) (h : field.length ≤ limit)
    (hlimit : limit ≤ maxLength) : readUpTo? limit (write field ++ t) = some (field, t) := by
  simp [readUpTo?, read?_write field t (Nat.le_trans h hlimit), h]

lemma readsBack_readText? : ReadsBack readText? write :=
  readsBack_read?.filter (Utf8.isValid ·)

end Field

namespace Algorithm

lemma mem_or_eq_vendor {bs : Bytes} {a : Algorithm} (h : ofLabel? bs = some a) :
    (∃ label, (label, a) ∈ standard ++ aliases) ∨ a = vendor bs ∧ isVendorLabel bs := by
  unfold ofLabel? at h
  split at h
  next a' ha =>
    obtain rfl : a' = a := by simpa using h
    obtain ⟨l₁, l₂, hl, -⟩ := List.lookup_eq_some_iff.1 ha
    exact .inl ⟨bs, hl ▸ by simp⟩
  next =>
    split_ifs at h with hv
    exact .inr ⟨by simpa using h.symm, hv⟩

lemma ofLabel?_label {bs : Bytes} {a : Algorithm} (h : ofLabel? bs = some a) :
    ofLabel? a.label = some a := by
  rcases mem_or_eq_vendor h with ⟨label, ha⟩ | ⟨rfl, -⟩
  · have hall : ∀ e ∈ standard ++ aliases, ofLabel? e.2.label = some e.2 := by decide +kernel
    exact hall _ ha
  · exact h

lemma length_label_le {bs : Bytes} {a : Algorithm} (h : ofLabel? bs = some a)
    (hbs : bs.length ≤ KeyData.maxLabelLength) : a.label.length ≤ KeyData.maxLabelLength := by
  rcases mem_or_eq_vendor h with ⟨label, ha⟩ | ⟨rfl, -⟩
  · have hall : ∀ e ∈ standard ++ aliases, e.2.label.length ≤ KeyData.maxLabelLength := by
      decide +kernel
    exact hall _ ha
  · exact hbs

lemma lt_of_mem_label {bs : Bytes} {a : Algorithm} (h : ofLabel? bs = some a) {b : UInt8}
    (hb : b ∈ a.label) : b.toNat < 0x80 := by
  rcases mem_or_eq_vendor h with ⟨label, ha⟩ | ⟨rfl, hv⟩
  · have hall : ∀ e ∈ standard ++ aliases, ∀ b ∈ e.2.label, b.toNat < 0x80 := by decide +kernel
    exact hall _ ha _ hb
  · rw [isVendorLabel, Bool.and_eq_true, List.all_eq_true] at hv
    simpa [UInt8.lt_iff_toNat_lt] using hv.1 b hb

end Algorithm

namespace KeyData

lemma readsBack_readInteger? : ReadsBack readInteger? Field.write :=
  Field.readsBack_read?.filter (isShortest ·)

lemma readsBack_readKey32? : ReadsBack readKey32? Field.write := by
  intro bs key rest h t
  simp only [readKey32?, Option.bind_eq_bind, Option.bind_eq_some_iff] at h
  obtain ⟨⟨n, r⟩, -, h⟩ := h
  dsimp only at h
  split_ifs at h with hn
  have hk := Field.length_of_take? h
  have hl := Field.length?_write key t (by rw [hk]; decide)
  have ht := Field.take?_append key t
  rw [hk] at ht hl
  simp [readKey32?, hl, ht]

lemma readsBack_readCurve? : ReadsBack readCurve? fun c => Field.write (Utf8.encode c.name) := by
  intro bs c rest h t
  simp only [readCurve?, Option.bind_eq_bind, Option.bind_eq_some_iff] at h
  obtain ⟨⟨name, r⟩, hr, d, hd, h⟩ := h
  obtain ⟨rfl, rfl⟩ : d = c ∧ r = rest := by simpa using h
  obtain rfl : Utf8.encode d.name = name := by simpa using List.find?_some hd
  simp [readCurve?, Field.readsBack_read? hr t, hd]

lemma readsBack_readParameters? (a : Algorithm) :
    ReadsBack (readParameters? a) fun k => k.parameters.flatMap Field.write := by
  intro bs k rest h t
  dsimp only
  cases a with
  | dsa =>
    simp only [readParameters?, Option.bind_eq_bind, Option.bind_eq_some_iff] at h
    obtain ⟨⟨p, r₁⟩, hp, ⟨q, r₂⟩, hq, ⟨g, r₃⟩, hg, ⟨y, r₄⟩, hy, h⟩ := h
    obtain ⟨rfl, rfl⟩ : dsa p q g y = k ∧ r₄ = rest := by simpa using h
    simp [parameters, readParameters?, readsBack_readInteger? hp _, readsBack_readInteger? hq _,
      readsBack_readInteger? hg _, readsBack_readInteger? hy _]
  | ecdsa curve =>
    simp only [readParameters?, Option.bind_eq_bind, Option.bind_eq_some_iff] at h
    obtain ⟨⟨named, r₁⟩, hc, ⟨point, r₂⟩, hp, h⟩ := h
    dsimp only at h
    split_ifs at h with hs
    obtain ⟨rfl, rfl⟩ : ecdsa curve point = k ∧ r₂ = rest := by simpa using h
    obtain ⟨rfl, hs⟩ := hs
    simp [parameters, readParameters?, readsBack_readCurve? hc _,
      Field.readsBack_readUpTo? _ hp _, hs]
  | ed25519 =>
    simp only [readParameters?, Option.bind_eq_bind, Option.bind_eq_some_iff] at h
    obtain ⟨⟨key, r⟩, hk, h⟩ := h
    obtain ⟨rfl, rfl⟩ : ed25519 key = k ∧ r = rest := by simpa using h
    simp [parameters, readParameters?, readsBack_readKey32? hk _]
  | rsa =>
    simp only [readParameters?, Option.bind_eq_bind, Option.bind_eq_some_iff] at h
    obtain ⟨⟨e, r₁⟩, he, ⟨n, r₂⟩, hn, h⟩ := h
    obtain ⟨rfl, rfl⟩ : rsa e n = k ∧ r₂ = rest := by simpa using h
    simp [parameters, readParameters?, readsBack_readInteger? he _, readsBack_readInteger? hn _]
  | skEcdsa =>
    simp only [readParameters?, Option.bind_eq_bind, Option.bind_eq_some_iff] at h
    obtain ⟨⟨named, r₁⟩, hc, ⟨point, r₂⟩, hp, ⟨application, r₃⟩, ha, h⟩ := h
    dsimp only at h
    split_ifs at h with hs
    obtain ⟨rfl, rfl⟩ : skEcdsa point application = k ∧ r₃ = rest := by simpa using h
    obtain ⟨rfl, hs⟩ := hs
    simp [parameters, readParameters?, readsBack_readCurve? hc _,
      Field.readsBack_readUpTo? _ hp _, Field.readsBack_readText? ha _, hs]
  | skEd25519 =>
    simp only [readParameters?, Option.bind_eq_bind, Option.bind_eq_some_iff] at h
    obtain ⟨⟨key, r₁⟩, hk, ⟨application, r₂⟩, ha, h⟩ := h
    obtain ⟨rfl, rfl⟩ : skEd25519 key application = k ∧ r₂ = rest := by simpa using h
    simp [parameters, readParameters?, readsBack_readKey32? hk _, Field.readsBack_readText? ha _]
  | vendor label =>
    simp only [readParameters?, Option.bind_eq_bind, Option.bind_eq_some_iff] at h
    obtain ⟨⟨key, r⟩, hk, h⟩ := h
    obtain ⟨rfl, rfl⟩ : vendor label key = k ∧ r = rest := by simpa using h
    simp [parameters, readParameters?, Field.readsBack_read? hk _]

lemma lt_of_mem_label {bs rest : Bytes} {k : KeyData} (h : decode? bs = some (k, rest)) {b : UInt8}
    (hb : b ∈ k.algorithm.label) : b.toNat < 0x80 := by
  simp only [decode?, Option.bind_eq_bind, Option.bind_eq_some_iff] at h
  obtain ⟨⟨label, r⟩, -, a, ha, h⟩ := h
  obtain rfl := algorithm_of_readParameters? h
  exact Algorithm.lt_of_mem_label ha hb

theorem readsBack_decode? : ReadsBack decode? encode := by
  intro bs k rest h t
  simp only [decode?, Option.bind_eq_bind, Option.bind_eq_some_iff] at h
  obtain ⟨⟨label, r⟩, hl, a, ha, h⟩ := h
  dsimp only at h
  obtain rfl := algorithm_of_readParameters? h
  have hlen := Algorithm.length_label_le ha (Field.length_le_of_readUpTo? hl)
  have hlabel := Field.readUpTo?_write (k.parameters.flatMap Field.write ++ t) hlen (by decide)
  rw [encode, List.flatMap_cons, List.append_assoc, decode?, hlabel]
  simp [Algorithm.ofLabel?_label ha, readsBack_readParameters? _ h t]

end KeyData

end RemoteBatch.HostKey
