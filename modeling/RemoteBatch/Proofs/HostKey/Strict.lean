import RemoteBatch.Proofs.HostKey.FirstUse

/-! What strict checking accepts. An entry is told by the parts of its line, and a known-hosts file
vouches for a key if all of it can be read, no entry for the host speaks against the key and one
records it. -/

namespace RemoteBatch.HostKey

namespace KnownHosts

inductive Names (name : Bytes) : Bytes → Prop
  | plain (h : ¬hashedStart <+: name) : Names name name
  | hashed {host salt digest secret : Bytes} {rest : List Bytes}
      (hparts : host.splitOn bar = [] :: [49] :: salt :: digest :: rest)
      (hsalt : Base64.decodeMime? salt = some secret)
      (hdigest : Base64.decodeMime? digest = some (Sha1.hmac secret name)) : Names name host

structure IsEntry (name line text : Bytes) : Prop where
  uncommented : line.head? ≠ some hash
  parts : ∃ hosts word rest, line.splitOn space = hosts :: word :: text :: rest ∧
    ∃ host ∈ hosts.splitOn comma, Names name host

lemma hashedStart_prefix_iff {host : Bytes} :
    hashedStart <+: host ↔ ∃ part parts, host.splitOn bar = [] :: [49] :: part :: parts := by
  constructor
  · rintro ⟨rest, rfl⟩
    obtain ⟨part, parts, hrest⟩ := List.exists_cons_of_ne_nil (List.splitOn_ne_nil bar rest)
    refine ⟨part, parts, ?_⟩
    rw [← hrest]
    rfl
  · rintro ⟨part, parts, h⟩
    refine ⟨[bar].intercalate (part :: parts), ?_⟩
    calc hashedStart ++ [bar].intercalate (part :: parts)
      _ = [bar].intercalate ([] :: [49] :: part :: parts) := by simp [hashedStart]
      _ = host := by rw [← h, List.intercalate_splitOn]

lemma isDigestOf_iff {name salt digest : Bytes} :
    isDigestOf name salt digest ↔ ∃ secret, Base64.decodeMime? salt = some secret ∧
      Base64.decodeMime? digest = some (Sha1.hmac secret name) := by
  rw [isDigestOf]
  cases Base64.decodeMime? salt <;> cases Base64.decodeMime? digest <;> simp [eq_comm]

lemma hostMatches_iff {name host : Bytes} : hostMatches name host ↔ Names name host := by
  rw [hostMatches]
  by_cases hp : hashedStart <+: host
  · obtain ⟨part, parts, hparts⟩ := hashedStart_prefix_iff.1 hp
    rw [if_pos (List.isPrefixOf_iff_prefix.2 hp), hparts]
    constructor
    · intro h
      cases parts with
      | nil => cases h
      | cons digest rest =>
        obtain ⟨secret, hsalt, hdigest⟩ := isDigestOf_iff.1 h
        exact .hashed hparts hsalt hdigest
    · rintro (h | ⟨hparts', hsalt, hdigest⟩)
      · exact absurd hp h
      rw [hparts] at hparts'
      cases hparts'
      exact isDigestOf_iff.2 ⟨_, hsalt, hdigest⟩
  · rw [if_neg (mt List.isPrefixOf_iff_prefix.1 hp), decide_eq_true_eq]
    constructor
    · rintro rfl
      exact .plain hp
    · rintro (h | ⟨hparts, -, -⟩)
      · rfl
      · exact absurd (hashedStart_prefix_iff.2 ⟨_, _, hparts⟩) hp

lemma isEntry_iff {name line text : Bytes} :
    IsEntry name line text ↔ line.head? ≠ some hash ∧ keyText? name line = some text := by
  have hlist {hosts : Bytes} :
      listMatches name hosts ↔ ∃ host ∈ hosts.splitOn comma, Names name host := by
    simp [listMatches, List.any_eq_true, hostMatches_iff]
  constructor
  · rintro ⟨hh, hosts, word, rest, hparts, hnames⟩
    exact ⟨hh, by rw [keyText?, hparts]; exact if_pos (hlist.2 hnames)⟩
  · rintro ⟨hh, htext⟩
    rw [keyText?] at htext
    split at htext
    next hosts word text' rest hparts =>
      split_ifs at htext with hm
      cases htext
      exact ⟨hh, hosts, word, rest, hparts, hlist.1 hm⟩
    next => cases htext

lemma entryKey?_eq_some_iff {name line : Bytes} {result : Except Fault KeyData} :
    entryKey? name line = some result ↔
      ∃ text, IsEntry name line text ∧ decodeKey text = result := by
  simp [entryKey?, isEntry_iff, and_assoc]

/-- The lines of a file vouch for a key under a name. An entry has no comment, so none records a key
that has one. -/
structure Vouches (name content : Bytes) (key : PublicKey) : Prop where
  text : ∀ line ∈ Text.splitAfter lineFeed content, Utf8.isValid line
  decodes : ∀ line ∈ Text.splitAfter lineFeed content, ∀ text, IsEntry name line text →
    ∃ k, decodeKey text = .ok k
  agrees : ∀ line ∈ Text.splitAfter lineFeed content, ∀ text k, IsEntry name line text →
    decodeKey text = .ok k → k.algorithm = key.algorithm → ⟨k, ""⟩ = key
  records : ∃ line ∈ Text.splitAfter lineFeed content, ∃ text k, IsEntry name line text ∧
    decodeKey text = .ok k ∧ ⟨k, ""⟩ = key

lemma judge_eq_recorded_iff {key : PublicKey} {es : List (Nat × KeyData)} :
    judge key es = .recorded ↔
      (∀ k ∈ es.map (·.2), k.algorithm = key.algorithm → ⟨k, ""⟩ = key) ∧
        ∃ k ∈ es.map (·.2), ⟨k, ""⟩ = key := by
  have hdiffers {k : KeyData} :
      differs key k = false ↔ (k.algorithm = key.algorithm → ⟨k, ""⟩ = key) := by
    by_cases ha : k.algorithm = key.algorithm <;> simp [differs, ha, eq_comm (a := key)]
  have hfind : es.find? (differs key ·.2) = none ↔
      ∀ k ∈ es.map (·.2), k.algorithm = key.algorithm → ⟨k, ""⟩ = key := by
    simp only [List.find?_eq_none, List.forall_mem_map, Bool.not_eq_true, hdiffers]
  rw [judge, ← hfind]
  cases es.find? (differs key ·.2) with
  | some found => simp
  | none =>
    have hany : es.any (fun e => key = ⟨e.2, ""⟩) ↔ ∃ k ∈ es.map (·.2), ⟨k, ""⟩ = key := by
      rw [List.any_eq_true]
      constructor
      · rintro ⟨e, he, h⟩
        exact ⟨e.2, List.mem_map_of_mem he, (of_decide_eq_true h).symm⟩
      · rintro ⟨k, hk, rfl⟩
        obtain ⟨e, he, rfl⟩ := List.mem_map.1 hk
        exact ⟨e, he, decide_eq_true rfl⟩
    rw [← hany]
    cases es.any (fun e => key = ⟨e.2, ""⟩) <;> simp

lemma readable_iff {name content : Bytes} :
    Readable name content ↔ (∀ line ∈ Text.splitAfter lineFeed content, Utf8.isValid line) ∧
      ∀ line ∈ Text.splitAfter lineFeed content, ∀ text, IsEntry name line text →
        ∃ k, decodeKey text = .ok k := by
  have hok {result : Except Fault KeyData} : result.isOk ↔ ∃ k, result = .ok k := by
    cases result <;> simp [Except.isOk, Except.toBool]
  simp only [Readable, IsReadableLine, forall_and, Option.mem_def, entryKey?_eq_some_iff, hok]
  refine and_congr_right' (forall₂_congr fun line _ => ?_)
  constructor
  · intro h text htext
    exact h _ ⟨text, htext, rfl⟩
  · rintro h _ ⟨text, htext, rfl⟩
    exact h text htext

lemma lookupIn_eq_recorded_iff {content : Bytes} {name : String} {key : PublicKey} :
    lookupIn content name key = .recorded ↔ Vouches (Utf8.encode name) content key := by
  by_cases hr : Readable (Utf8.encode name) content
  · obtain ⟨es, hes, hj⟩ := @lookupIn_of_readable name content key hr
    obtain ⟨htext, hdecodes⟩ := readable_iff.1 hr
    rw [hj, judge_eq_recorded_iff, hes]
    simp only [mem_recordedKeys, entryKey?_eq_some_iff]
    constructor
    · rintro ⟨hagrees, k, ⟨line, hline, text, hentry, hk⟩, hkey⟩
      exact ⟨htext, hdecodes, fun line hline text k hentry hk =>
        hagrees k ⟨line, hline, text, hentry, hk⟩, line, hline, text, k, hentry, hk, hkey⟩
    · rintro ⟨-, -, hagrees, line, hline, text, k, hentry, hk, hkey⟩
      refine ⟨?_, k, ⟨line, hline, text, hentry, hk⟩, hkey⟩
      rintro k ⟨line, hline, text, hentry, hk⟩
      exact hagrees line hline text k hentry hk
  · obtain ⟨fault, hf⟩ := lookupIn_of_not_readable key hr
    rw [hf]
    exact iff_of_false (by simp) fun h => hr (readable_iff.2 ⟨h.text, h.decodes⟩)

lemma lookup_eq_recorded_iff {t : FileTree} {p : Path} {name : String} {key : PublicKey} :
    lookup t p name key = .recorded ↔
      ∃ content, t.find p = .ok (.file content) ∧ Vouches (Utf8.encode name) content key := by
  rw [lookup, content]
  cases hf : t.find p with
  | error fault =>
    have hnone : ¬Vouches (Utf8.encode name) [] key := fun h => by
      simpa [Text.splitAfter] using h.records
    simpa [lookupIn_eq_recorded_iff] using hnone
  | ok node =>
    cases node with
    | directory => simp
    | file content => simp [lookupIn_eq_recorded_iff]

end KnownHosts

namespace Policy

open KnownHosts

lemma verifyStrict_cases (t : FileTree) (path : Path) (host : String) (port : Nat)
    (key : PublicKey) :
    (lookup t path (name host port) key = .recorded ∧
      verifyStrict t path host port key = .pass t []) ∨
    (lookup t path (name host port) key ≠ .recorded ∧
      ∃ complaint, verifyStrict t path host port key = .refuse t complaint) := by
  rw [verifyStrict]
  cases lookup t path (name host port) key with
  | recorded => exact .inl ⟨rfl, rfl⟩
  | _ => exact .inr ⟨by simp, _, rfl⟩

/-- Strict checking accepts a key only if the known-hosts file vouches for it, and then so does
first use, silently; otherwise it refuses the key with one complaint. It changes no file. -/
theorem strictKnownHosts_accepts_iff (t : FileTree) (known : Option Path) (host : String)
    (port : Nat) (key : PublicKey) :
    let strict := verify (.strictKnownHosts known) t host port key
    let firstUse := verify (.trustOnFirstUse known) t host port key
    (strict.accepted = true ↔ ∃ content,
      t.find (known.getD (defaultKnownHosts t)) = .ok (.file content) ∧
        Vouches (Utf8.encode (name host port)) content key) ∧
    (strict.accepted = false → ∃ complaint, strict.logs = [Topic.hostKey.error complaint]) ∧
    strict.files = t ∧
    (strict.accepted = true →
      firstUse.accepted = true ∧ firstUse.logs = [] ∧ firstUse.files = t) := by
  intro strict firstUse
  rw [← lookup_eq_recorded_iff]
  rcases verifyStrict_cases t (known.getD (defaultKnownHosts t)) host port key with
    ⟨hl, hv⟩ | ⟨hl, complaint, hv⟩
  · have hs : strict = .pass t [] := hv
    have hf : firstUse = .pass t [] := by simp only [firstUse, verify, verifyFirstUse, hl]
    rw [hs, hf]
    refine ⟨iff_of_true rfl hl, fun h => ?_, rfl, fun _ => ⟨rfl, rfl, rfl⟩⟩
    cases h
  · have hs : strict = .refuse t complaint := hv
    rw [hs]
    refine ⟨iff_of_false (fun h => ?_) hl, fun _ => ⟨complaint, rfl⟩, rfl, fun h => ?_⟩
    · cases h
    · cases h

theorem strictKnownHosts_accepts_hashed :
    let hosts := "hub,|1|AQIDBAUGBwgJCgsMDQ4PEBESExQ=|gBCQYvB6jY+WU7OWAED5C+WL27M="
    let t := exampleTree (entryLine hosts (exampleKey 1))
    let broken := exampleTree ([255, lineFeed] ++ entryLine hosts (exampleKey 1))
    let known := some (Utf8.encode "kh")
    let firstUse := verify (.trustOnFirstUse known) t "router" 22 (exampleKey 1)
    (verify (.strictKnownHosts known) t "router" 22 (exampleKey 1)).accepted = true ∧
      (firstUse.accepted = true ∧ firstUse.logs = [] ∧ firstUse.files = t) ∧
      ∃ complaint, (verify (.strictKnownHosts known) broken "router" 22 (exampleKey 1)).logs =
        [Topic.hostKey.error complaint] := by
  intro hosts t broken known firstUse
  have ha : (verify (.strictKnownHosts known) t "router" 22 (exampleKey 1)).accepted = true := by
    decide +kernel
  have hr : (verify (.strictKnownHosts known) broken "router" 22 (exampleKey 1)).accepted =
      false := by decide +kernel
  exact ⟨ha, (strictKnownHosts_accepts_iff t known "router" 22 (exampleKey 1)).2.2.2 ha,
    (strictKnownHosts_accepts_iff broken known "router" 22 (exampleKey 1)).2.1 hr⟩

end Policy

end RemoteBatch.HostKey
