import RemoteBatch.Proofs.HostKey.FirstUse
import RemoteBatch.Proofs.Text.Base64
import RemoteBatch.Proofs.Text.Blank
import RemoteBatch.Proofs.Text.Decoded

/-! Pinned fingerprints. An entry of the list stands for the key whose fingerprint it is, with or
without the name of the digest, and for no other: no digest in Base64 begins with that name. -/

namespace RemoteBatch.HostKey

open PublicKey

def PublicKey.bareDigest (k : PublicKey) : String :=
  Utf8.decodeLossy (Base64.encodeUnpadded (Sha256.digest k.data.encode))

lemma fingerprint_eq (k : PublicKey) : k.fingerprint = fingerprintLabel ++ k.bareDigest := rfl

lemma encode_bareDigest (k : PublicKey) :
    Utf8.encode k.bareDigest = Base64.encodeUnpadded (Sha256.digest k.data.encode) := by
  apply Utf8.encode_decodeLossy
  have hvalid := Utf8.isValid_append_of_lt (t := [])
    (Base64.encodeUnpadded (Sha256.digest k.data.encode)) fun b hb => Base64.lt_of_mem hb
  rwa [List.append_nil] at hvalid

lemma symbol_plain {n : Nat} (h : n < 64) :
    Char.ofNat (Base64.symbol n).toNat ≠ ':' ∧
      Text.isBlank (Char.ofNat (Base64.symbol n).toNat) = false := by
  have hd : ∀ n : Fin 64, Char.ofNat (Base64.symbol n).toNat ≠ ':' ∧
      Text.isBlank (Char.ofNat (Base64.symbol n).toNat) = false := by decide +kernel
  exact hd ⟨n, h⟩

lemma plain_of_mem_bareDigest {k : PublicKey} {c : Char} (hc : c ∈ k.bareDigest.toList) :
    c ≠ ':' ∧ Text.isBlank c = false := by
  have hmem : ∀ b ∈ Utf8.encode k.bareDigest,
      b ∈ Base64.encodeUnpadded (Sha256.digest k.data.encode) := by
    rw [encode_bareDigest]
    exact fun _ => id
  obtain ⟨b, hb, rfl⟩ :=
    Utf8.exists_mem_of_mem_toList (fun b hb => Base64.lt_of_mem (hmem b hb)) hc
  obtain ⟨n, hn, rfl⟩ := Base64.exists_symbol_of_mem (hmem b hb)
  exact symbol_plain hn

lemma colon_notMem_bareDigest (k : PublicKey) : ':' ∉ k.bareDigest.toList :=
  fun h => (plain_of_mem_bareDigest h).1 rfl

namespace Policy

lemma bareFingerprint_eq_iff {s body : String} (hbody : ':' ∉ body.toList) :
    bareFingerprint s = body ↔
      Text.trim s = body ∨ Text.trim s = fingerprintLabel ++ body := by
  have hcolon : ':' ∈ fingerprintLabel.toList := by decide
  rw [bareFingerprint, Text.trim, ← String.toList_inj, ← String.toList_inj, ← String.toList_inj,
    String.toList_ofList, String.toList_ofList, String.toList_append]
  generalize body.toList = body at hbody
  generalize Text.trimChars s.toList = cs
  generalize fingerprintLabel.toList = label at hcolon
  split_ifs with hl
  · obtain ⟨rest, rfl⟩ := List.isPrefixOf_iff_prefix.1 hl
    rw [List.drop_left, List.append_cancel_left_eq, or_iff_right]
    rintro rfl
    exact hbody (List.mem_append_left _ hcolon)
  · rw [or_iff_left]
    rintro rfl
    exact hl (List.isPrefixOf_iff_prefix.2 (List.prefix_append _ _))

lemma bareFingerprint_fingerprint (k : PublicKey) :
    bareFingerprint k.fingerprint = k.bareDigest := by
  rw [bareFingerprint_eq_iff (colon_notMem_bareDigest k)]
  right
  have hlabel : fingerprintLabel.toList.all (!Text.isBlank ·) := by decide
  have hplain : ∀ c ∈ k.fingerprint.toList, Text.isBlank c = false := by
    intro c hc
    rw [fingerprint_eq, String.toList_append, List.mem_append] at hc
    rcases hc with hc | hc
    · simpa using List.all_eq_true.1 hlabel c hc
    · exact (plain_of_mem_bareDigest hc).2
  rw [Text.trim, Text.trimChars_of_forall hplain, String.ofList_toList, fingerprint_eq]

lemma isPinned_iff (fingerprints : List String) (k : PublicKey) :
    isPinned fingerprints k ↔ ∃ f ∈ fingerprints,
      Text.trim f = k.fingerprint ∨ fingerprintLabel ++ Text.trim f = k.fingerprint := by
  have hcancel (s : String) : fingerprintLabel ++ s = k.fingerprint ↔ s = k.bareDigest := by
    rw [fingerprint_eq, ← String.toList_inj, String.toList_append, String.toList_append,
      List.append_cancel_left_eq, String.toList_inj]
  rw [isPinned, List.any_eq_true]
  refine exists_congr fun f => and_congr_right fun _ => ?_
  rw [decide_eq_true_eq, bareFingerprint_fingerprint,
    bareFingerprint_eq_iff (colon_notMem_bareDigest k), hcancel, or_comm, fingerprint_eq]

lemma accepted_verifyPinned (fingerprints : List String) (t : FileTree) (host : String)
    (port : Nat) (k : PublicKey) :
    (verifyPinned t fingerprints host port k).accepted = isPinned fingerprints k := by
  rw [verifyPinned]
  cases h : isPinned fingerprints k <;> simp [Verdict.pass, Verdict.refuse]

/-- A key is accepted just when a listed entry, without the blanks round it, is the key's
fingerprint or its fingerprint without the name of the digest. Only which entries are listed counts,
and one more never costs an acceptance; host, port and files do not count, and no file is
changed. -/
theorem rejectUnknown_accepts_iff (fingerprints : List String) (t : FileTree) (host : String)
    (port : Nat) (k : PublicKey) :
    let accepts (fs : List String) := (verify (.rejectUnknown fs) t host port k).accepted
    Utf8.encode k.fingerprint = Utf8.encode "SHA256:" ++
      Base64.encodeUnpadded (Sha256.digest k.data.encode) ∧
    (accepts fingerprints ↔ ∃ f ∈ fingerprints,
      Text.trim f = k.fingerprint ∨ "SHA256:" ++ Text.trim f = k.fingerprint) ∧
    (∀ fs, (∀ f, f ∈ fs ↔ f ∈ fingerprints) → accepts fs = accepts fingerprints) ∧
    (∀ fs, fingerprints ⊆ fs → accepts fingerprints → accepts fs) ∧
    (∀ t' host' port', (verify (.rejectUnknown fingerprints) t' host' port' k).accepted =
      accepts fingerprints) ∧
    (verify (.rejectUnknown fingerprints) t host port k).files = t := by
  intro accepts
  have haccepts (fs : List String) : accepts fs = isPinned fs k :=
    accepted_verifyPinned fs t host port k
  have hmono {fs fs' : List String} (hs : fs ⊆ fs') (h : accepts fs) : accepts fs' := by
    rw [haccepts, isPinned_iff] at h ⊢
    obtain ⟨f, hf, hk⟩ := h
    exact ⟨f, hs hf, hk⟩
  refine ⟨?_, ?_, fun fs hfs => ?_, fun fs hs => hmono hs, fun t' host' port' => ?_, ?_⟩
  · rw [fingerprint_eq, Utf8.encode_append, encode_bareDigest]
    rfl
  · rw [haccepts, isPinned_iff]
    rfl
  · exact Bool.eq_iff_iff.2 ⟨hmono fun f hf => (hfs f).1 hf, hmono fun f hf => (hfs f).2 hf⟩
  · rw [haccepts]
    exact accepted_verifyPinned fingerprints t' host' port' k
  · exact verifyPinned_files fingerprints

end Policy

end RemoteBatch.HostKey
