import RemoteBatch.Proofs.Files.Append
import RemoteBatch.Proofs.HostKey.FirstUse
import RemoteBatch.Proofs.HostKey.Recording

/-! What checking keys leaves alone. Files only grow at their ends, and only where first use learns
a key; what it learns for one name makes no difference to a lookup for another. -/

namespace RemoteBatch

namespace FileTree

def Extends (t u : FileTree) : Prop :=
  ∀ p content, t.find p = .ok (.file content) → ∃ more, u.find p = .ok (.file (content ++ more))

lemma Extends.refl (t : FileTree) : t.Extends t :=
  fun _ content h => ⟨[], by rwa [List.append_nil]⟩

lemma Extends.trans {t u v : FileTree} (h : t.Extends u) (h' : u.Extends v) : t.Extends v := by
  intro p content hp
  obtain ⟨more, hu⟩ := h p content hp
  obtain ⟨rest, hv⟩ := h' p _ hu
  exact ⟨more ++ rest, by rw [hv, List.append_assoc]⟩

variable {t u : FileTree} {p : Path}

lemma extends_makeParents (t : FileTree) (p : Path) : t.Extends (t.makeParents p).1 :=
  fun _ content h => ⟨[], by rw [List.append_nil]; exact find_ensureAll h _⟩

lemma extends_set {place : Place} {old : Bytes} (ho : t.openAppend p = .ok (place, old))
    (more : Bytes) : t.Extends (t.set place (.file (old ++ more))) := by
  intro q content hq
  have hdir := node?_of_openAppend ho
  obtain ⟨there, hl, hn, hs⟩ := find_eq_file_iff.1 hq
  rcases eq_or_ne there place with rfl | hne
  · obtain ⟨-, -, -, -, -, hold | ⟨hnone, -⟩⟩ := openAppend_eq_ok_iff.1 ho
    · obtain rfl : content = old := by simpa using hn.symm.trans hold
      exact ⟨more, find_eq_file_iff.2
        ⟨there, locate_set _ hdir hl, node?_set_self t _ (ne_nil_of_node?_ne hdir), hs⟩⟩
    · rw [hn] at hnone
      cases hnone
  · refine ⟨[], find_eq_file_iff.2 ⟨there, locate_set _ hdir hl, ?_, hs⟩⟩
    rw [node?_set_of_ne t _ hne, List.append_nil, hn]

lemma find_eq_directory_iff : t.find p = .ok .directory ↔ t.isDirectory p := by
  unfold isDirectory
  rcases t.find p with fault | ⟨content | -⟩ <;> simp

lemma find_makeParents {node : Node} (h : t.find p = .ok node) :
    (t.makeParents p).1.find p = .ok node := by
  cases node with
  | file content => exact find_ensureAll h _
  | directory =>
    rw [find_eq_directory_iff] at h ⊢
    exact ensureAll_induction (P := (isDirectory · p = true))
      (fun u q hq hu => isDirectory_set _ (by simp [hq]) hu) _ h

end FileTree

namespace HostKey

namespace KnownHosts

open FileTree

lemma learn_cases (t : FileTree) (p : Path) (name : String) (key : PublicKey) :
    (learn t p name key).1 = (t.makeParents p).1 ∨
    ∃ place content, (t.makeParents p).1.openAppend p = .ok (place, content) ∧
      (learn t p name key).1 =
        (t.makeParents p).1.set place (.file (content ++ addition name key content)) := by
  unfold learn
  rcases hm : t.makeParents p with ⟨u, fault | ⟨⟨⟩⟩⟩
  · exact .inl rfl
  · dsimp only
    cases ho : u.openAppend p with
    | error fault => exact .inl (by simp [FileTree.append, ho, bind, Except.bind])
    | ok opened => exact .inr ⟨_, _, rfl, by simp [FileTree.append, ho, bind, Except.bind]⟩

lemma extends_learn (t : FileTree) (p : Path) (name : String) (key : PublicKey) :
    t.Extends (learn t p name key).1 := by
  have hp := extends_makeParents t p
  rcases learn_cases t p name key with h | ⟨place, content, ho, h⟩
  · rwa [h]
  · rw [h]
    exact hp.trans (extends_set ho _)

structure IsOneHost (name : String) : Prop where
  space_notMem : ' ' ∉ name.toList
  comma_notMem : ',' ∉ name.toList
  lineFeed_notMem : '\n' ∉ name.toList
  head_ne_bar : name.toList.head? ≠ some '|'

structure IsOneLine (key : PublicKey) : Prop where
  decodes : ∃ bs rest, KeyData.decode? bs = some (key.data, rest)
  lineFeed_notMem : lineFeed ∉ key.line

variable {n : Bytes}

lemma entriesFrom_append {later : List Bytes}
    (h : ∀ line ∈ later, Utf8.isValid line ∧ entryKey? n line = none) (m : Nat)
    (lines : List Bytes) : entriesFrom n m (lines ++ later) = entriesFrom n m lines := by
  induction lines generalizing m with
  | nil =>
    induction later generalizing m with
    | nil => rfl
    | cons line later ih =>
      obtain ⟨⟨hv, hk⟩, hlater⟩ := List.forall_mem_cons.1 h
      rw [List.nil_append, entriesFrom_cons, if_pos hv, hk]
      exact ih hlater _
  | cons line lines ih =>
    simp only [List.cons_append, entriesFrom_cons, ih]

lemma entriesFrom_append_lineFeed {last : Bytes} (hne : last ≠ []) (m : Nat) (init : List Bytes) :
    entriesFrom n m (init ++ [last ++ [lineFeed]]) = entriesFrom n m (init ++ [last]) := by
  have hhead : (last ++ [lineFeed]).head? = last.head? := by
    obtain ⟨b, rest, rfl⟩ := List.exists_cons_of_ne_nil hne
    rfl
  induction init generalizing m with
  | nil =>
    rw [List.nil_append, List.nil_append, entriesFrom_cons, entriesFrom_cons,
      entryKey?_append_lineFeed n hne, hhead,
      Utf8.isValid_append_singleton_of_lt (by decide) last]
  | cons line init ih =>
    simp only [List.cons_append, entriesFrom_cons, ih]

lemma entries_closed (content : Bytes) : entries n (closed content) = entries n content := by
  unfold closed
  split_ifs with h
  · rw [List.append_nil]
  · rcases eq_or_ne content [] with rfl | hne
    · rfl
    · obtain ⟨init, last, hlast, hc, hs⟩ := Text.splitAfter_append_sep lineFeed hne h
      rw [entries, entries, hc, hs, entriesFrom_append_lineFeed hlast]

section Entry

variable {name : String} {key : PublicKey}

lemma isValid_line (hk : ∃ bs rest, KeyData.decode? bs = some (key.data, rest)) (t : Bytes) :
    Utf8.isValid (key.line ++ t) = Utf8.isValid t := by
  obtain ⟨bs, rest, hd⟩ := hk
  have hbase : ∀ b ∈ Base64.encode key.data.encode, b.toNat < 0x80 := by
    intro b hb
    have := (Base64.isText_of_mem_encode hb).2
    omega
  rw [PublicKey.line, PublicKey.algorithm]
  simp only [List.append_assoc, List.singleton_append]
  rw [Utf8.isValid_append_of_lt _ fun b hb => KeyData.lt_of_mem_label hd hb, List.cons_append,
    Utf8.isValid_cons_of_lt (by decide), Utf8.isValid_append_of_lt _ hbase]
  split_ifs
  · rfl
  · rw [List.cons_append, Utf8.isValid_cons_of_lt (by decide), Utf8.isValid_encode_append]

lemma keyText?_of_listMatches (hs : ' ' ∉ name.toList)
    (h : listMatches n (Utf8.encode name) = false) (more : Bytes) :
    keyText? n (Utf8.encode name ++ space :: more) = none := by
  have hspace : space ∉ Utf8.encode name := notMem_encode (by decide) hs
  rw [keyText?, List.splitOn_append_cons_self_of_not_mem hspace]
  rcases more.splitOn space with - | ⟨word, - | ⟨text, rest⟩⟩ <;> simp [h]

variable (hn : IsOneHost name) (hk : IsOneLine key)

include hn hk

lemma splitAfter_entry : Text.splitAfter lineFeed (entryLine name key) = [entryLine name key] := by
  apply Text.splitAfter_line
  simp only [List.mem_append, not_or]
  exact ⟨⟨notMem_encode (by decide) hn.lineFeed_notMem, by decide⟩, hk.lineFeed_notMem⟩

theorem entries_append_addition (hne : Utf8.encode name ≠ n) (content : Bytes) :
    entries n (content ++ addition name key content) = entries n content := by
  have hentry : entryKey? n (entryLine name key) = none := by
    have hlist : listMatches n (Utf8.encode name) = false := by
      rw [listMatches_encode n hn.comma_notMem hn.head_ne_bar, decide_eq_false hne]
    have hline : entryLine name key = Utf8.encode name ++ space :: (key.line ++ [lineFeed]) := by
      simp [entryLine]
    rw [entryKey?, hline, keyText?_of_listMatches hn.space_notMem hlist]
    split_ifs <;> rfl
  have hvalid : Utf8.isValid (entryLine name key) := by
    rw [entryLine, List.append_assoc, List.append_assoc, Utf8.isValid_encode_append,
      List.singleton_append, Utf8.isValid_cons_of_lt (by decide), isValid_line hk.decodes]
    rfl
  -- The entry stands on a line of its own, since the content is closed in front of it.
  rw [append_addition, entries, Text.splitAfter_append _ (getLast?_closed content),
    splitAfter_entry hn hk, entriesFrom_append (by simpa using ⟨hvalid, hentry⟩)]
  exact entries_closed content

end Entry

section Learn

variable {t : FileTree} {p : Path}

/-- Making the directories of a path brings nothing to light that was not found there before. -/
def NothingHidden (t : FileTree) (p : Path) : Prop :=
  ∀ node, (t.makeParents p).1.find p = .ok node → t.find p = .ok node

lemma nothingHidden_of_find {node : Node} (h : t.find p = .ok node) : NothingHidden t p := by
  intro node' h'
  rw [find_makeParents h] at h'
  rwa [← h']

lemma content_makeParents (h : NothingHidden t p) :
    content (t.makeParents p).1 p = content t p := by
  rw [content, content]
  cases hf : t.find p with
  | ok node => rw [find_makeParents hf]
  | error fault =>
    cases hm : (t.makeParents p).1.find p with
    | error fault' => rfl
    | ok node =>
      rw [h node hm] at hf
      cases hf

lemma content_of_openAppend {place : Place} {c : Bytes} (h : t.openAppend p = .ok (place, c)) :
    content t p = .ok c := by
  obtain ⟨here, name, ha, he, hs, hn | ⟨hn, rfl⟩⟩ := openAppend_eq_ok_iff.1 h
  · refine content_of_file (find_eq_file_iff.2 ⟨place, ?_, hn, fun hslash => he (.inr hslash)⟩)
    exact locate_eq_ok_iff.2 ⟨here, name, ha, hs⟩
  · have hl := locate_eq_ok_iff.2 ⟨here, name, ha, hs⟩
    have hf : t.find p = .error (.os .notFound) := by
      simp [find, hl, bind, Except.bind, hn]
    rw [content, hf]

lemma content_learn (h : NothingHidden t p) (name : String) (key : PublicKey) :
    content (learn t p name key).1 p = content t p ∨ ∃ c, content t p = .ok c ∧
      content (learn t p name key).1 p = .ok (c ++ addition name key c) := by
  rw [← content_makeParents h]
  rcases learn_cases t p name key with hl | ⟨place, c, ho, hl⟩
  · exact .inl (by rw [hl])
  · exact .inr ⟨c, content_of_openAppend ho, by rw [hl]; exact content_of_file (find_set ho _)⟩

lemma lookup_learn (h : NothingHidden t p) {name other : String} {key : PublicKey}
    (hn : IsOneHost name) (hk : IsOneLine key) (hne : other ≠ name) (presented : PublicKey) :
    lookup (learn t p name key).1 p other presented = lookup t p other presented := by
  rcases content_learn h name key with hc | ⟨c, hc, hc'⟩
  · rw [lookup, hc, lookup]
  · have hencode : Utf8.encode name ≠ Utf8.encode other := fun he => hne (Utf8.encode_inj he).symm
    rw [lookup_of_content hc', lookup_of_content hc, lookupIn,
      entries_append_addition hn hk hencode, lookupIn]

end Learn

end KnownHosts

structure Presentation where
  policy : Policy
  host : String
  port : Nat
  key : PublicKey

namespace Presentation

open KnownHosts Policy

def name (s : Presentation) : String := KnownHosts.name s.host s.port

def verdict (s : Presentation) (t : FileTree) : Verdict := s.policy.verify t s.host s.port s.key

def after : List Presentation → FileTree → FileTree
  | [], t => t
  | s :: ss, t => after ss (s.verdict t).files

structure Learned (s : Presentation) (t : FileTree) (path : Path) : Prop where
  policy : ∃ known, s.policy = .trustOnFirstUse known ∧ known.getD (defaultKnownHosts t) = path
  accepted : (s.verdict t).accepted = true
  unrecorded : lookup t path s.name s.key ≠ .recorded
  files : (s.verdict t).files = (learn t path s.name s.key).1

lemma verdict_cases (s : Presentation) (t : FileTree) :
    (s.verdict t).files = t ∨ ∃ path, s.Learned t path := by
  obtain ⟨policy, host, port, key⟩ := s
  cases policy with
  | acceptAny => exact .inl rfl
  | strictKnownHosts known => exact .inl (verifyStrict_files _)
  | rejectUnknown fingerprints => exact .inl (verifyPinned_files _)
  | trustOnFirstUse known =>
    generalize hp : known.getD (defaultKnownHosts t) = path
    have hv : verdict ⟨.trustOnFirstUse known, host, port, key⟩ t =
        verifyFirstUse t path host port key := by
      rw [← hp]
      rfl
    have hlearned (hne : lookup t path (KnownHosts.name host port) key ≠ .recorded)
        (hnew : verifyFirstUse t path host port key = acceptNew t path host port key) :
        Learned ⟨.trustOnFirstUse known, host, port, key⟩ t path :=
      ⟨⟨known, rfl, hp⟩, by rw [hv, hnew, acceptNew_accepted], hne,
        by rw [hv, hnew, acceptNew_files]; rfl⟩
    cases hl : lookup t path (KnownHosts.name host port) key with
    | recorded => exact .inl (by rw [hv, verifyFirstUse, hl]; rfl)
    | changed line => exact .inl (by rw [hv, verifyFirstUse, hl]; rfl)
    | unknown => exact .inr ⟨path, hlearned (by simp [hl]) (by rw [verifyFirstUse, hl])⟩
    | failed fault => exact .inr ⟨path, hlearned (by simp [hl]) (by rw [verifyFirstUse, hl])⟩

lemma extends_verdict (s : Presentation) (t : FileTree) : t.Extends (s.verdict t).files := by
  rcases s.verdict_cases t with h | ⟨path, h⟩
  · rw [h]
    exact .refl t
  · rw [h.files]
    exact extends_learn t path s.name s.key

lemma extends_after (ss : List Presentation) (t : FileTree) : t.Extends (after ss t) := by
  induction ss generalizing t with
  | nil => exact .refl t
  | cons s ss ih => exact (s.extends_verdict t).trans (ih _)

def KeepsOthers (s : Presentation) (t : FileTree) (path : Path) : Prop :=
  ∀ other presented, other ≠ s.name →
    lookup (s.verdict t).files path other presented = lookup t path other presented

lemma keepsOthers {s : Presentation} {t : FileTree} {known : Option Path}
    (hpolicy : s.policy = .trustOnFirstUse known) (hn : IsOneHost s.name) (hk : IsOneLine s.key)
    (hp : NothingHidden t (known.getD (defaultKnownHosts t))) :
    s.KeepsOthers t (known.getD (defaultKnownHosts t)) := by
  intro other presented hne
  rcases s.verdict_cases t with h | ⟨path, h⟩
  · rw [h]
  · obtain ⟨known', hknown, rfl⟩ := h.policy
    obtain rfl : known = known' := Policy.trustOnFirstUse.inj (hpolicy.symm.trans hknown)
    rw [h.files]
    exact lookup_learn hp hn hk hne presented

/-- Whatever keys are presented under whatever policies, files grow at their ends at most, and only
where first use learns a key; and a key that it learns on one line of the file changes nothing for
other names. -/
theorem verdict_frame (t : FileTree) (before : List Presentation) (s : Presentation) :
    let u := after before t
    let v := (s.verdict u).files
    t.Extends u ∧ u.Extends v ∧ (v = u ∨ ∃ path, s.Learned u path) ∧
      ∀ known, s.policy = .trustOnFirstUse known → IsOneHost s.name → IsOneLine s.key →
        NothingHidden u (known.getD (defaultKnownHosts u)) →
        s.KeepsOthers u (known.getD (defaultKnownHosts u)) := by
  intro u v
  refine ⟨extends_after before t, s.extends_verdict u, s.verdict_cases u, ?_⟩
  intro known hpolicy hn hk hp
  exact keepsOthers hpolicy hn hk hp

lemma isOneLine_exampleKey : IsOneLine (exampleKey 1) :=
  ⟨⟨(exampleKey 1).data.encode, [], by decide +kernel⟩, by decide +kernel⟩

lemma isOneHost_router : IsOneHost (KnownHosts.name "router" 22) :=
  ⟨by decide, by decide, by decide, by decide⟩

theorem verdict_frame_unended :
    let known := some (Utf8.encode "kh")
    let t := exampleTree (entryLine "hub" (exampleKey 2)).dropLast
    let u := after [⟨.strictKnownHosts known, "router", 22, exampleKey 1⟩] t
    let s : Presentation := ⟨.trustOnFirstUse known, "router", 22, exampleKey 1⟩
    u.Extends (s.verdict u).files ∧ (s.verdict u).files.find (Utf8.encode "kh") =
        .ok (.file (entryLine "hub" (exampleKey 2) ++ entryLine "router" (exampleKey 1))) ∧
      lookup (s.verdict u).files (Utf8.encode "kh") "hub" (exampleKey 2) = .recorded ∧
      lookup (s.verdict u).files (Utf8.encode "kh") "hub" (exampleKey 1) = .changed 1 := by
  intro known t u s
  obtain ⟨-, hextends, -, hframe⟩ :=
    verdict_frame t [⟨.strictKnownHosts known, "router", 22, exampleKey 1⟩] s
  have hu : u = t := by simp only [u, after, verdict, verify, verifyStrict_files]
  have hfind : t.find (Utf8.encode "kh") =
      .ok (.file (entryLine "hub" (exampleKey 2)).dropLast) := by decide +kernel
  have hhidden : NothingHidden u (Utf8.encode "kh") := by
    rw [hu]
    exact nothingHidden_of_find hfind
  have hkeeps : s.KeepsOthers u (Utf8.encode "kh") :=
    hframe known rfl isOneHost_router isOneLine_exampleKey hhidden
  rw [hkeeps "hub" _ (by decide), hkeeps "hub" _ (by decide)]
  refine ⟨hextends, ?_, ?_, ?_⟩ <;> decide +kernel

/-- A path whose directories are yet to be made may lead to a file behind them; and a comment of
more than one line is recorded as lines of their own. -/
theorem not_keepsOthers :
    (¬∀ (s : Presentation) (t : FileTree) (known : Option Path),
      s.policy = .trustOnFirstUse known → IsOneHost s.name → IsOneLine s.key →
      s.KeepsOthers t (known.getD (defaultKnownHosts t))) ∧
    ¬∀ (s : Presentation) (t : FileTree) (known : Option Path),
      s.policy = .trustOnFirstUse known → IsOneHost s.name →
      NothingHidden t (known.getD (defaultKnownHosts t)) →
      s.KeepsOthers t (known.getD (defaultKnownHosts t)) := by
  constructor
  · intro h
    have hkeeps := h ⟨_, "router", 22, exampleKey 1⟩ (exampleTree (entryLine "hub" (exampleKey 2)))
      (some (Utf8.encode "a/../kh")) rfl isOneHost_router isOneLine_exampleKey "hub" (exampleKey 2)
      (by decide)
    exact absurd hkeeps (by decide +kernel)
  · intro h
    have hkeeps := h ⟨_, "router", 22, { exampleKey 1 with
        comment := "\n" ++ Utf8.decodeLossy (entryLine "hub" (exampleKey 2)) }⟩ (exampleTree [])
      (some (Utf8.encode "kh")) rfl isOneHost_router (nothingHidden_of_find rfl) "hub"
      (exampleKey 2) (by decide)
    exact absurd hkeeps (by decide +kernel)

end Presentation

end HostKey

end RemoteBatch
