import RemoteBatch.HostKey.Policy
import RemoteBatch.Proofs.HostKey.Entries

/-! What first use does with a key that is not the recorded one. -/

namespace RemoteBatch.HostKey

lemma KnownHosts.lookup_of_content {t : FileTree} {p : Path} {c : Bytes}
    (h : content t p = .ok c) (name : String) (key : PublicKey) :
    lookup t p name key = lookupIn c name key := by
  rw [lookup, h]

lemma KnownHosts.content_of_file {t : FileTree} {p : Path} {c : Bytes}
    (h : t.find p = .ok (.file c)) : content t p = .ok c := by
  rw [content, h]

namespace Policy

variable (t : FileTree) (host : String) (port : Nat) (key : PublicKey)

lemma acceptNew_accepted (path : Path) : (acceptNew t path host port key).accepted = true := by
  unfold acceptNew
  dsimp only
  split <;> rfl

lemma acceptNew_files (path : Path) :
    (acceptNew t path host port key).files =
      (KnownHosts.learn t path (KnownHosts.name host port) key).1 := by
  unfold acceptNew
  dsimp only
  split
  next h => rw [h]; rfl
  next h => rw [h]; rfl

section Refused

variable {t host port key}

lemma verifyFirstUse_files_of_refused {path : Path}
    (h : (verifyFirstUse t path host port key).accepted = false) :
    (verifyFirstUse t path host port key).files = t := by
  rw [verifyFirstUse] at h ⊢
  split
  · rfl
  · rfl
  all_goals
    next hl =>
      simp only [hl, acceptNew_accepted] at h
      cases h

lemma verifyStrict_files (path : Path) : (verifyStrict t path host port key).files = t := by
  rw [verifyStrict]
  split <;> rfl

lemma verifyPinned_files (fingerprints : List String) :
    (verifyPinned t fingerprints host port key).files = t := by
  rw [verifyPinned]
  split <;> rfl

lemma files_of_refused {p : Policy} (h : (p.verify t host port key).accepted = false) :
    (p.verify t host port key).files = t := by
  cases p with
  | acceptAny => cases h
  | trustOnFirstUse path => exact verifyFirstUse_files_of_refused h
  | strictKnownHosts path => exact verifyStrict_files _
  | rejectUnknown fingerprints => exact verifyPinned_files _

end Refused

open KnownHosts

/-- A changed key is refused as long as the whole file can be read; one line that is no text, or one
entry for the host without a key, and it is accepted and recorded beside the first. -/
theorem trustOnFirstUse_refuses_changed_iff (known : Option Path) {content line : Bytes}
    {recorded : KeyData}
    (hfile : t.find (known.getD (defaultKnownHosts t)) = .ok (.file content))
    (hline : line ∈ Text.splitAfter lineFeed content)
    (hentry : entryKey? (Utf8.encode (name host port)) line = some (.ok recorded))
    (halgorithm : recorded.algorithm = key.algorithm) (hne : recorded ≠ key.data) :
    let v := verify (.trustOnFirstUse known) t host port key
    ((v.accepted = false ∧ v.files = t) ↔ Readable (Utf8.encode (name host port)) content) ∧
      (¬Readable (Utf8.encode (name host port)) content → v.accepted = true ∧
        v.files = (learn t (known.getD (defaultKnownHosts t)) (name host port) key).1) := by
  intro v
  have hl := lookup_of_content (content_of_file hfile) (name host port) key
  by_cases hr : Readable (Utf8.encode (name host port)) content
  · have hk := (mem_recordedKeys _).2 ⟨line, hline, hentry⟩
    obtain ⟨n, hn⟩ := lookupIn_of_changed hr hk halgorithm hne
    have hv : v = .refuse t s!"Host key for {host}:{port} does not match known_hosts line {n}" := by
      simp only [v, verify, verifyFirstUse, hl, hn]
    exact ⟨iff_of_true ⟨by rw [hv]; rfl, by rw [hv]; rfl⟩ hr, fun h => absurd hr h⟩
  · obtain ⟨fault, hf⟩ := lookupIn_of_not_readable key hr
    have hv : v = acceptNew t (known.getD (defaultKnownHosts t)) host port key := by
      simp only [v, verify, verifyFirstUse, hl, hf]
    have ha : v.accepted = true := by rw [hv, acceptNew_accepted]
    refine ⟨iff_of_false (fun h => ?_) hr, fun _ => ⟨ha, by rw [hv, acceptNew_files]⟩⟩
    rw [ha] at h
    cases h.1

def exampleKey (seed : UInt8) : PublicKey := ⟨.ed25519 (List.replicate 32 seed), ""⟩

def exampleTree (content : Bytes) : FileTree := ⟨[([Utf8.encode "kh"], .file content)], [], []⟩

theorem trustOnFirstUse_refuses_changed_readable :
    let t := exampleTree (Utf8.encode "# mine\n" ++ entryLine "router" (exampleKey 1))
    let v := verify (.trustOnFirstUse (some (Utf8.encode "kh"))) t "router" 22 (exampleKey 2)
    v.accepted = false ∧ v.files = t := by
  have hline : entryLine "router" (exampleKey 1) ∈ Text.splitAfter lineFeed
      (Utf8.encode "# mine\n" ++ entryLine "router" (exampleKey 1)) := by decide +kernel
  have hentry : entryKey? (Utf8.encode (name "router" 22)) (entryLine "router" (exampleKey 1)) =
      some (.ok (exampleKey 1).data) := by decide +kernel
  exact (trustOnFirstUse_refuses_changed_iff _ "router" 22 (exampleKey 2) _ rfl hline hentry rfl
    (by decide)).1.2 (by decide +kernel)

/-- The first entry for the host holds no key, the second one another key. -/
theorem not_trustOnFirstUse_refuses_changed :
    ¬∀ (t : FileTree) (known : Option Path) (host : String) (port : Nat) (key : PublicKey)
      (content line : Bytes) (recorded : KeyData),
      key.comment = "" →
      t.find (known.getD (defaultKnownHosts t)) = .ok (.file content) →
      line ∈ Text.splitAfter lineFeed content →
      entryKey? (Utf8.encode (name host port)) line = some (.ok recorded) →
      recorded.algorithm = key.algorithm →
      key.data ∉ recordedKeys (Utf8.encode (name host port)) content →
      (verify (.trustOnFirstUse known) t host port key).accepted = false ∧
        (verify (.trustOnFirstUse known) t host port key).files = t := by
  intro h
  have hv := (h (exampleTree (Utf8.encode "router ssh-ed25519 !!!\n" ++
    entryLine "router" (exampleKey 1))) (some (Utf8.encode "kh")) "router" 22 (exampleKey 2) _
    (entryLine "router" (exampleKey 1)) (exampleKey 1).data rfl rfl (by decide +kernel)
    (by decide +kernel) rfl (by decide +kernel)).1
  exact absurd hv (by decide +kernel)

end Policy

end RemoteBatch.HostKey
