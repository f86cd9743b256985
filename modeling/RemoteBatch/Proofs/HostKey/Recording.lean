import RemoteBatch.Proofs.HostKey.Entries
import RemoteBatch.Proofs.HostKey.KeyData
import RemoteBatch.Proofs.Text.Base64
import RemoteBatch.Proofs.Text.Lines
import RemoteBatch.Proofs.Text.Utf8

/-! What recording a key adds to the entries of a known-hosts file. -/

namespace RemoteBatch.HostKey.KnownHosts

structure IsPlainName (name : String) : Prop where
  space_notMem : ' ' ∉ name.toList
  comma_notMem : ',' ∉ name.toList
  lineFeed_notMem : '\n' ∉ name.toList
  head_ne_hash : name.toList.head? ≠ some '#'
  head_ne_bar : name.toList.head? ≠ some '|'

structure Storable (k : KeyData) : Prop where
  decodes : ∃ bs rest, KeyData.decode? bs = some (k, rest)
  space_notMem : space ∉ k.algorithm.label
  lineFeed_notMem : lineFeed ∉ k.algorithm.label

variable (n : Bytes)

lemma splitOn_concat {sep b : UInt8} (h : b ≠ sep) (line : Bytes) :
    ∃ init last, line.splitOn sep = init ++ [last] ∧
      (line ++ [b]).splitOn sep = init ++ [last ++ [b]] := by
  induction line with
  | nil => exact ⟨[], [], rfl, List.splitOn_eq_singleton (by simpa using h.symm)⟩
  | cons a line ih =>
    obtain ⟨init, last, hline, hb⟩ := ih
    rw [List.cons_append, List.splitOn_cons_eq_if_modifyHead, List.splitOn_cons_eq_if_modifyHead,
      hline, hb]
    by_cases ha : a == sep
    · exact ⟨[] :: init, last, by rw [if_pos ha]; rfl, by rw [if_pos ha]; rfl⟩
    · rw [if_neg ha, if_neg ha]
      cases init with
      | nil => exact ⟨[], a :: last, rfl, rfl⟩
      | cons part init => exact ⟨(a :: part) :: init, last, rfl, rfl⟩

lemma decodeKey_append_lineFeed (text : Bytes) :
    decodeKey (text ++ [lineFeed]) = decodeKey text := by
  rw [decodeKey, Base64.decodeMime?_append_of_isLineBreak text (by simp; rfl), decodeKey]

lemma keyText?_append_lineFeed (line : Bytes) :
    (keyText? n (line ++ [lineFeed])).map decodeKey = (keyText? n line).map decodeKey := by
  have hne : lineFeed ≠ space := by decide
  obtain ⟨init, last, hline, hb⟩ := splitOn_concat hne line
  rw [keyText?, keyText?, hline, hb]
  -- The line feed gets into the key only if that is the third and last part.
  rcases init with - | ⟨hosts, - | ⟨word, - | ⟨key, init⟩⟩⟩
  · rfl
  · rfl
  · simp only [List.cons_append, List.nil_append]
    split_ifs
    · simp only [Option.map_some, decodeKey_append_lineFeed]
    · rfl
  · rfl

lemma entryKey?_append_lineFeed {line : Bytes} (h : line ≠ []) :
    entryKey? n (line ++ [lineFeed]) = entryKey? n line := by
  obtain ⟨b, rest, rfl⟩ := List.exists_cons_of_ne_nil h
  rw [entryKey?, keyText?_append_lineFeed, entryKey?]
  rfl

lemma IsReadableLine.append_lineFeed {line : Bytes} (hne : line ≠ []) (h : IsReadableLine n line) :
    IsReadableLine n (line ++ [lineFeed]) := by
  refine ⟨(Utf8.isValid_append h.1).trans rfl, ?_⟩
  rw [entryKey?_append_lineFeed n hne]
  exact h.2

def closed (content : Bytes) : Bytes :=
  content ++ if content.getLast? = some lineFeed then [] else [lineFeed]

lemma append_addition (name : String) (key : PublicKey) (content : Bytes) :
    content ++ addition name key content = closed content ++ entryLine name key := by
  rw [addition, closed, List.append_assoc]

lemma getLast?_closed (content : Bytes) : (closed content).getLast? = some lineFeed := by
  unfold closed
  split_ifs with h
  · rwa [List.append_nil]
  · simp

lemma recordedKeys_closed_append (content more : Bytes) :
    recordedKeys n (closed content ++ more) =
      recordedKeys n (closed content) ++ recordedKeys n more := by
  rw [recordedKeys, Text.splitAfter_append _ (getLast?_closed content), List.filterMap_append]
  rfl

lemma Readable.closed_append {content more : Bytes} (h : Readable n (closed content))
    (h' : Readable n more) : Readable n (closed content ++ more) := by
  rw [Readable, Text.splitAfter_append _ (getLast?_closed content)]
  exact List.forall_mem_append.2 ⟨h, h'⟩

lemma entryKey?_lineFeed : entryKey? n [lineFeed] = none := rfl

lemma recordedKeys_closed (content : Bytes) :
    recordedKeys n (closed content) = recordedKeys n content := by
  unfold closed
  split_ifs with h
  · rw [List.append_nil]
  · rcases eq_or_ne content [] with rfl | hne
    · rfl
    · obtain ⟨init, last, hlast, hc, hs⟩ := Text.splitAfter_append_sep lineFeed hne h
      rw [recordedKeys, recordedKeys, hc, hs, List.filterMap_append, List.filterMap_append,
        List.filterMap_cons, List.filterMap_cons, entryKey?_append_lineFeed n hlast]

lemma Readable.closed {content : Bytes} (hr : Readable n content) :
    Readable n (closed content) := by
  unfold KnownHosts.closed
  split_ifs with h
  · rwa [List.append_nil]
  · rcases eq_or_ne content [] with rfl | hne
    · rintro line hline
      obtain rfl : line = [lineFeed] := by simpa [Text.splitAfter] using hline
      exact ⟨rfl, by simp [entryKey?_lineFeed]⟩
    · obtain ⟨init, last, hlast, hc, hs⟩ := Text.splitAfter_append_sep lineFeed hne h
      rw [Readable, hc, List.forall_mem_append] at hr
      rw [Readable, hs, List.forall_mem_append]
      refine ⟨hr.1, ?_⟩
      rintro line hline
      obtain rfl := List.mem_singleton.1 hline
      exact (hr.2 last (List.mem_singleton_self last)).append_lineFeed n hlast

section Entry

variable {name : String} {key : PublicKey}

lemma notMem_encode {b : UInt8} (hb : b.toNat < 0x80) (h : Char.ofNat b.toNat ∉ name.toList) :
    b ∉ Utf8.encode name :=
  fun hm => h (Utf8.mem_of_mem_encode hm hb)

lemma head?_encode_ne {b : UInt8} (hb : b.toNat < 0x80)
    (h : name.toList.head? ≠ some (Char.ofNat b.toNat)) : (Utf8.encode name).head? ≠ some b :=
  fun hm => h (Utf8.head?_of_head?_encode hm hb)

lemma notMem_base64 {b : UInt8} (hb : b.toNat < 43) (bs : Bytes) : b ∉ Base64.encode bs :=
  fun hm => absurd (Base64.isText_of_mem_encode hm).1 (by omega)

lemma entryLine_eq (hc : key.comment = "") :
    entryLine name key = Utf8.encode name ++ space :: (key.data.algorithm.label ++ space ::
      (Base64.encode key.data.encode ++ [lineFeed])) := by
  rw [entryLine, PublicKey.line, if_pos hc]
  simp [PublicKey.algorithm, space]

lemma listMatches_encode (hcomma : ',' ∉ name.toList) (hbar : name.toList.head? ≠ some '|') :
    listMatches n (Utf8.encode name) = decide (Utf8.encode name = n) := by
  have hcomma : comma ∉ Utf8.encode name := notMem_encode (by decide) hcomma
  have hbar : ¬hashedStart.isPrefixOf (Utf8.encode name) := by
    intro hp
    refine head?_encode_ne (b := bar) (by decide) hbar ?_
    obtain ⟨rest, hrest⟩ := List.isPrefixOf_iff_prefix.1 hp
    rw [← hrest]
    rfl
  rw [listMatches, List.splitOn_eq_singleton hcomma, List.any_cons, List.any_nil, Bool.or_false,
    hostMatches, if_neg hbar]

variable (hn : IsPlainName name) (hk : Storable key.data) (hc : key.comment = "")

include hk in
lemma decodeKey_encode :
    decodeKey (Base64.encode key.data.encode ++ [lineFeed]) = .ok key.data := by
  obtain ⟨bs, rest, hd⟩ := hk.decodes
  have hb := KeyData.readsBack_decode? hd []
  rw [List.append_nil] at hb
  rw [decodeKey_append_lineFeed, decodeKey, Base64.decodeMime?_encode]
  dsimp only
  rw [hb]

include hn hc in
lemma head?_entryLine_ne : (entryLine name key).head? ≠ some hash := by
  have hh := head?_encode_ne (b := hash) (by decide) hn.head_ne_hash
  rw [entryLine_eq hc]
  rcases he : Utf8.encode name with - | ⟨b, rest⟩
  · simp [space, hash]
  · rw [he] at hh
    exact hh

include hn hk hc in
lemma entryKey?_entryLine : entryKey? n (entryLine name key) =
    if Utf8.encode name = n then some (.ok key.data) else none := by
  have hspace : space ∉ Utf8.encode name := notMem_encode (by decide) hn.space_notMem
  have hlast : space ∉ Base64.encode key.data.encode ++ [lineFeed] := by
    rw [List.mem_append, not_or]
    exact ⟨notMem_base64 (by decide) _, by decide⟩
  rw [entryKey?, if_neg (head?_entryLine_ne hn hc), keyText?, entryLine_eq hc,
    List.splitOn_append_cons_self_of_not_mem hspace,
    List.splitOn_append_cons_self_of_not_mem hk.space_notMem, List.splitOn_eq_singleton hlast]
  simp only [listMatches_encode n hn.comma_notMem hn.head_ne_bar, decide_eq_true_eq]
  split_ifs
  · rw [Option.map_some, decodeKey_encode hk]
  · rfl

include hk hc in
lemma isValid_entryLine : Utf8.isValid (entryLine name key) := by
  obtain ⟨bs, rest, hd⟩ := hk.decodes
  rw [entryLine_eq hc, Utf8.isValid_encode_append, Utf8.isValid_cons_of_lt (by decide),
    Utf8.isValid_append_of_lt _ fun b hb => KeyData.lt_of_mem_label hd hb,
    Utf8.isValid_cons_of_lt (by decide), Utf8.isValid_append_of_lt]
  · rfl
  · intro b hb
    have := (Base64.isText_of_mem_encode hb).2
    omega

include hn hk hc in
lemma splitAfter_entryLine :
    Text.splitAfter lineFeed (entryLine name key) = [entryLine name key] := by
  have h : lineFeed ∉ Utf8.encode name ++ space :: (key.data.algorithm.label ++ space ::
      Base64.encode key.data.encode) := by
    simp only [List.mem_append, List.mem_cons, not_or]
    exact ⟨notMem_encode (by decide) hn.lineFeed_notMem, by decide, hk.lineFeed_notMem, by decide,
      notMem_base64 (by decide) _⟩
  have hs := Text.splitAfter_line lineFeed h
  simp only [List.append_assoc, List.cons_append] at hs
  rwa [entryLine_eq hc]

include hn hk hc in
theorem recordedKeys_append_addition (content : Bytes) :
    recordedKeys n (content ++ addition name key content) =
      recordedKeys n content ++ if Utf8.encode name = n then [key.data] else [] := by
  rw [append_addition, recordedKeys_closed_append, recordedKeys_closed]
  congr 1
  rw [recordedKeys, splitAfter_entryLine hn hk hc, List.filterMap_cons, List.filterMap_nil,
    entryKey?_entryLine n hn hk hc]
  split_ifs <;> rfl

include hn hk hc in
theorem Readable.append_addition {content : Bytes} (h : Readable n content) :
    Readable n (content ++ addition name key content) := by
  rw [KnownHosts.append_addition]
  refine h.closed.closed_append n ?_
  rw [Readable, splitAfter_entryLine hn hk hc]
  rintro line hline
  obtain rfl := List.mem_singleton.1 hline
  refine ⟨isValid_entryLine hk hc, ?_⟩
  rw [entryKey?_entryLine n hn hk hc]
  split_ifs <;> simp [Except.isOk, Except.toBool]

end Entry

end RemoteBatch.HostKey.KnownHosts
