import RemoteBatch.Proofs.Files.Paths
import RemoteBatch.Proofs.Settings.StoredPassword
import RemoteBatch.Proofs.Text.Decoded

/-! Whether the settings file that is named is the one that is read. Its name is read as text and
looked up from the root, which for some names leads elsewhere. -/

open RemoteBatch.Path (Ends)

namespace RemoteBatch.Settings

open FileTree (find_eq_file_iff name_of_locate locate_of_ends)
open Utf8 (asText)

namespace FileSettings

variable {t : FileTree} {p : Path} {name : Bytes} {place : Place} {content : Bytes}

def lookedUp (t : FileTree) (p : Path) : Path := absolute t (asText p)

/-- Whether the path of the working directory leads there from the root. -/
def Anchored (t : FileTree) : Prop := t.locate (absolute t Path.self) = .ok t.working

lemma ends_asText (h : Ends p name) : Ends (asText p) (asText name) := by
  have hslash : Path.slash ∉ asText name := fun hmem =>
    h.noSlash (Utf8.mem_of_mem_asText hmem (by decide))
  refine ⟨Utf8.asText_ne_nil h.nonempty, hslash, ?_⟩
  obtain rfl | ⟨before, rfl⟩ := h.eq
  · exact .inl rfl
  · exact .inr (Utf8.asText_append_of_lt (by decide) before name)

lemma eq_self_of_asText (h : asText name = Path.self) : name = Path.self :=
  Utf8.eq_of_asText_eq (by simp [Path.self, Path.dot]) h

lemma eq_above_of_asText (h : asText name = Path.above) : name = Path.above :=
  Utf8.eq_of_asText_eq (by simp [Path.above, Path.dot]) h

lemma ends_absolute (t : FileTree) (h : Ends p name) : Ends (absolute t p) name := by
  rw [absolute]
  split_ifs
  · exact h
  · exact h.append _

lemma ends_lookedUp (t : FileTree) (h : Ends p name) : Ends (lookedUp t p) (asText name) :=
  ends_absolute t (ends_asText h)

lemma withConf_of_above (h : Ends p Path.above) : withConf p = p := by
  have hname : Path.fileName? p = none := by
    rw [h.fileName? (by decide), if_pos rfl]
  rw [withConf, hname]

lemma withConf_eq (h : Ends p name) (hs : name ≠ Path.self) (ha : name ≠ Path.above) :
    withConf p = p ++ conf := by
  have hname : Path.fileName? p = some name := by
    rw [h.fileName? hs, if_neg ha]
  rw [withConf, hname]
  dsimp only
  split_ifs with hdot hslash
  · rw [h.trimmed hs]
  · exact absurd hslash h.not_endsInSlash
  · rfl

lemma ends_withConf (h : Ends p name) (hs : name ≠ Path.self) (ha : name ≠ Path.above) :
    Ends (withConf p) (name ++ conf) := by
  rw [withConf_eq h hs ha]
  exact h.concat (by decide)

lemma ends_of_read (hl : t.locate p = .ok place) (hr : t.read p = .ok content) :
    t.node? place = some (.file content) ∧ ∃ name, Ends p name := by
  obtain ⟨hn, hslash⟩ := node?_of_read hl hr
  have hne : p ≠ [] := by
    rintro rfl
    cases hl
  exact ⟨hn, Path.exists_ends hne hslash⟩

lemma locate_cases {name : String} {path : Path} (h : locate t name = .ok path) :
    path = absolute t (Utf8.encode name) ∨ path = withConf (absolute t (Utf8.encode name)) := by
  simp only [locate] at h
  split_ifs at h
  · cases h
    exact .inl rfl
  · cases h
    exact .inr rfl

lemma load_of_found (h : Ends p name) (hn : t.node? place = some (.file content))
    (hfound : t.locate (lookedUp t p) = .ok place) :
    load t p = ofText (origin t (lookedUp t p)) (decode content) := by
  have hslash := (ends_lookedUp t h).not_endsInSlash
  have hfile : t.isFile (lookedUp t p) := by
    rw [FileTree.isFile, find_eq_file_iff.2 ⟨place, hfound, hn, hslash⟩]
  have hlocate : locate t (Utf8.decodeLossy p) = .ok (lookedUp t p) := by
    rw [locate]
    exact if_pos hfile
  simp only [load, hlocate, bind, Except.bind, read_of_locate hfound hn, if_neg hslash,
    Except.mapError]

lemma concat_conf_ne (name : Bytes) : asText name ++ conf ≠ name := by
  -- Behind a text the ending leaves a text, and that nothing had to be replaced in.
  intro h
  have htext : asText name ++ conf = Utf8.encode (Utf8.decodeLossy name ++ ".conf") := by
    rw [Utf8.encode_append]
    rfl
  have hsame : asText name = name := by
    rw [← h, htext, Utf8.asText_encode]
  rw [hsame] at h
  exact absurd (List.append_right_eq_self.1 h) (by decide)

lemma misses_of_locate (hl : t.locate p = .ok place) (hr : t.read p = .ok content)
    (hlost : t.locate (lookedUp t p) ≠ .ok place) {path : Path}
    (hpath : locate t (Utf8.decodeLossy p) = .ok path) : t.Misses path {place} := by
  rw [FileTree.misses_singleton]
  obtain ⟨hn, name, h⟩ := ends_of_read hl hr
  have hd : t.node? place ≠ some .directory := by simp [hn]
  obtain ⟨hself, hname⟩ := name_of_locate h hl hd
  rcases locate_cases hpath with rfl | rfl
  · exact hlost
  · have htried := ends_lookedUp t h
    by_cases ha : name = Path.above
    · have habove : asText Path.above = Path.above := by decide
      rw [ha, habove] at htried
      change t.locate (withConf (lookedUp t p)) ≠ .ok place
      rw [withConf_of_above htried]
      exact hlost
    · have hs' : asText name ≠ Path.self := fun he => hself (eq_self_of_asText he)
      have ha' : asText name ≠ Path.above := fun he => ha (eq_above_of_asText he)
      have hconf := ends_withConf htried hs' ha'
      intro hl'
      -- Both names would be the last of the place.
      obtain ⟨here, hplace⟩ := hname ha
      obtain ⟨there, hplace'⟩ := (name_of_locate hconf hl' hd).2 (by
        intro he
        have hlen := congrArg List.length he
        rw [List.length_append] at hlen
        have hthree : 5 ≤ conf.length := by decide
        have htwo : Path.above.length = 2 := rfl
        omega)
      have hlast := congrArg List.getLast? (hplace.symm.trans hplace')
      rw [List.getLast?_concat, List.getLast?_concat, Option.some.injEq] at hlast
      exact concat_conf_ne name hlast.symm

lemma isAbsolute_pathOf_append (here : Place) (p : Path) :
    Path.isAbsolute (pathOf here ++ Path.slash :: p) := by
  cases here with
  | nil => rfl
  | cons name here => rfl

lemma walk_of_anchored (ht : Anchored t) :
    0 ∉ pathOf t.working ∧ t.walk [] (Path.components (pathOf t.working)) = .ok t.working := by
  have hself : Ends Path.self Path.self := ⟨by decide, by decide, .inl rfl⟩
  have hc : Path.components (pathOf t.working ++ Path.slash :: Path.self) =
      Path.components (pathOf t.working) ++ [Path.self] := Path.components_append _ _
  obtain ⟨hnul, -, here, hw, hs⟩ := (locate_of_ends (hself.append _) hc).1 ht
  rw [if_pos (isAbsolute_pathOf_append _ _)] at hw
  cases hs
  exact ⟨fun hmem => hnul (List.mem_append_left _ hmem), hw⟩

lemma locate_absolute_iff (ht : Anchored t) (hl : t.locate p = .ok place) (h : Ends p name) :
    t.locate (absolute t p) = .ok place ↔ (absolute t p).length < FileTree.maxPath := by
  obtain ⟨before, hc⟩ := h.components
  obtain ⟨hnul, hlen, here, hw, hs⟩ := (locate_of_ends h hc).1 hl
  by_cases habs : Path.isAbsolute p
  · rw [absolute, if_pos habs]
    exact ⟨fun _ => hlen, fun _ => hl⟩
  · obtain ⟨hnul', hw'⟩ := walk_of_anchored ht
    have hc' : Path.components (pathOf t.working ++ Path.slash :: p) =
        (Path.components (pathOf t.working) ++ before) ++ [name] := by
      rw [Path.components_append, hc, List.append_assoc]
    rw [if_neg habs] at hw
    rw [absolute, if_neg habs, locate_of_ends (h.append _) hc',
      if_pos (isAbsolute_pathOf_append _ _), FileTree.walk_append, hw']
    constructor
    · exact fun hfound => hfound.2.1
    · refine fun hshort => ⟨?_, hshort, here, hw, hs⟩
      simp only [List.mem_append, List.mem_cons, not_or]
      exact ⟨hnul', by decide, hnul⟩

lemma isValid_of_found (hl : t.locate p = .ok place) (hd : t.node? place ≠ some .directory)
    (h : Ends p name) (hfound : t.locate (lookedUp t p) = .ok place) : Utf8.isValid name := by
  by_cases ha : name = Path.above
  · rw [ha]
    decide
  · obtain ⟨-, hname⟩ := name_of_locate h hl hd
    obtain ⟨-, hname'⟩ := name_of_locate (ends_lookedUp t h) hfound hd
    obtain ⟨here, hplace⟩ := hname ha
    obtain ⟨there, hplace'⟩ := hname' fun he => ha (eq_above_of_asText he)
    have hlast := congrArg List.getLast? (hplace.symm.trans hplace')
    rw [List.getLast?_concat, List.getLast?_concat, Option.some.injEq] at hlast
    rw [hlast]
    exact Utf8.isValid_encode _

def dots (n : Nat) : Path := (List.replicate n (Path.self ++ [Path.slash])).flatten

lemma dots_succ_append (n : Nat) (p : Path) :
    dots (n + 1) ++ p = Path.self ++ Path.slash :: (dots n ++ p) := by
  simp [dots, List.replicate_succ]

lemma length_dots (n : Nat) : (dots n).length = 2 * n := by
  induction n with
  | zero => rfl
  | succ n ih =>
    have h := congrArg List.length (dots_succ_append n [])
    simp only [List.append_nil, List.length_append, List.length_cons, ih] at h
    have hself : Path.self.length = 1 := rfl
    omega

lemma ends_dots (h : Ends p name) (n : Nat) : Ends (dots n ++ p) name := by
  induction n with
  | zero => exact h
  | succ n ih =>
    rw [dots_succ_append]
    exact ih.append _

lemma eq_of_mem_dots {n : Nat} {b : UInt8} (h : b ∈ dots n) : b = Path.dot ∨ b = Path.slash := by
  obtain ⟨way, hway, h⟩ := List.mem_flatten.1 h
  rw [List.eq_of_mem_replicate hway] at h
  simpa [Path.self] using h

lemma zero_notMem_dots (n : Nat) : 0 ∉ dots n := by
  intro h
  rcases eq_of_mem_dots h with h | h <;> exact absurd h (by decide)

lemma isValid_dots_append (n : Nat) (p : Path) : Utf8.isValid (dots n ++ p) = Utf8.isValid p := by
  apply Utf8.isValid_append_of_lt
  intro b hb
  rcases eq_of_mem_dots hb with rfl | rfl <;> decide

lemma not_isAbsolute_dots_append (h : ¬Path.isAbsolute p) (n : Nat) :
    ¬Path.isAbsolute (dots n ++ p) := by
  cases n with
  | zero => exact h
  | succ n =>
    rw [dots_succ_append]
    exact (by decide : ¬some Path.dot == some Path.slash)

lemma components_dots (n : Nat) (p : Path) :
    Path.components (dots n ++ p) = List.replicate n Path.self ++ Path.components p := by
  induction n with
  | zero => rfl
  | succ n ih =>
    have hself : Path.components Path.self = [Path.self] :=
      Path.components_name (by decide) (by decide)
    rw [dots_succ_append, Path.components_append, ih, hself]
    rfl

lemma walk_dots {here : Place} (h : t.node? here = some .directory) (n : Nat) :
    t.walk here (List.replicate n Path.self) = .ok here := by
  induction n with
  | zero => rw [List.replicate_zero, FileTree.walk.eq_3 _ _ h]
  | succ n ih =>
    rw [List.replicate_succ, FileTree.walk.eq_4 _ _ _ _ h]
    exact ih

lemma locate_dots (h : Ends p name) (hrel : ¬Path.isAbsolute p) {n : Nat}
    (hlen : (dots n ++ p).length < FileTree.maxPath) (hl : t.locate p = .ok place) :
    t.locate (dots n ++ p) = .ok place := by
  obtain ⟨before, hc⟩ := h.components
  obtain ⟨hnul, -, here, hw, hs⟩ := (locate_of_ends h hc).1 hl
  rw [if_neg hrel] at hw
  have hc' : Path.components (dots n ++ p) =
      (List.replicate n Path.self ++ before) ++ [name] := by
    rw [components_dots, hc, List.append_assoc]
  rw [locate_of_ends (ends_dots h n) hc', if_neg (not_isAbsolute_dots_append hrel n),
    FileTree.walk_append, walk_dots (FileTree.node?_of_walk hw)]
  refine ⟨?_, hlen, here, hw, hs⟩
  rw [List.mem_append, not_or]
  exact ⟨zero_notMem_dots n, hnul⟩

lemma isFile_of_long (h : FileTree.maxPath ≤ p.length) : t.isFile p = false := by
  rw [FileTree.isFile]
  split
  · next content hf =>
    obtain ⟨place, hl, -⟩ := find_eq_file_iff.1 hf
    obtain ⟨here, last, ha, -⟩ := FileTree.locate_eq_ok_iff.1 hl
    simp only [FileTree.approach, ite_error_eq_ok] at ha
    exact absurd h ha.2.2.1
  · rfl

lemma length_withConf (h : Ends p name) (hs : name ≠ Path.self) :
    p.length ≤ (withConf p).length := by
  by_cases ha : name = Path.above
  · rw [withConf_of_above (ha ▸ h)]
  · rw [withConf_eq h hs ha, List.length_append]
    exact Nat.le_add_right _ _

lemma load_of_long (h : Ends p name) (hs : name ≠ Path.self)
    (hlong : FileTree.maxPath ≤ (lookedUp t p).length) :
    load t p = .error (.notFound (Utf8.decodeLossy p)) := by
  have hs' : asText name ≠ Path.self := fun he => hs (eq_self_of_asText he)
  have hconf := hlong.trans (length_withConf (ends_lookedUp t h) hs')
  have hlocate : locate t (Utf8.decodeLossy p) = .error (.notFound (Utf8.decodeLossy p)) := by
    rw [locate]
    change (if t.isFile (lookedUp t p) then _ else
      if t.isFile (withConf (lookedUp t p)) then _ else _) = _
    rw [isFile_of_long hlong, isFile_of_long hconf]
    rfl
  rw [load, hlocate]
  rfl

end FileSettings

namespace Configuration

open FileSettings

/-- A named file that can be read is the one that the settings come from just when its name, read as
text and completed from the root, leads to it too; else no configuration depends on what it holds. A
name that is text leads there just when it is short enough from the root; a longer one is not found,
although it can be read. A file whose own name is no text is lost. -/
theorem named_file_read (t : FileTree) (a : Arguments) (p : Path) (place : Place)
    (content : Bytes) (ha : a.config = some p) (hl : t.locate p = .ok place)
    (hr : t.read p = .ok content) :
    (t.locate (lookedUp t p) = .ok place →
      fileSettings t a =
        (ofText (origin t (lookedUp t p)) (decode content)).mapError .file) ∧
    (t.locate (lookedUp t p) ≠ .ok place →
      (∀ path, a.commandsFile = some path → t.locate path ≠ .ok place) →
      ∀ new, ofArguments (t.set place (.file new)) a = ofArguments t a) ∧
    (Anchored t → Utf8.isValid p →
      (t.locate (lookedUp t p) = .ok place ↔ (absolute t p).length < FileTree.maxPath)) ∧
    (Utf8.isValid p → FileTree.maxPath ≤ (absolute t p).length →
      fileSettings t a = .error (.file (.notFound (Utf8.decodeLossy p)))) ∧
    ∀ name, Path.fileName? p = some name → ¬Utf8.isValid name →
      t.locate (lookedUp t p) ≠ .ok place := by
  obtain ⟨hn, name, h⟩ := ends_of_read hl hr
  have hd : t.node? place ≠ some .directory := by simp [hn]
  have hself := (name_of_locate h hl hd).1
  refine ⟨fun hfound => ?_, fun hlost hcommands new => ?_, fun ht hv => ?_, fun hv hlong => ?_,
    fun last hlast hno => ?_⟩
  · simp only [fileSettings, ha, load_of_found h hn hfound]
  · apply ofArguments_eq (.of_file hn new)
    intro path hpath
    simp only [sources, ha, List.mem_append, Option.mem_toList] at hpath
    rcases hpath with hpath | hpath
    · rw [Option.bind_some] at hpath
      cases hlocate : locate t (Utf8.decodeLossy p) with
      | error fault =>
        rw [hlocate] at hpath
        cases hpath
      | ok path' =>
        rw [hlocate] at hpath
        cases hpath
        exact misses_of_locate hl hr hlost hlocate
    · exact FileTree.misses_singleton.2 (hcommands path hpath)
  · rw [lookedUp, Utf8.asText_of_isValid hv]
    exact locate_absolute_iff ht hl h
  · have hlong' : FileTree.maxPath ≤ (lookedUp t p).length := by
      rwa [lookedUp, Utf8.asText_of_isValid hv]
    simp only [fileSettings, ha, load_of_long h hself hlong', Except.mapError]
  · intro hfound
    have hname := h.fileName? hself
    rw [hlast] at hname
    split_ifs at hname
    cases hname
    exact hno (isValid_of_found hl hd h hfound)

theorem named_file_read_beside :
    let plain : Path := Utf8.encode "r"
    let other : Path := [0xFF]
    let content := Utf8.encode "password=p\n"
    let t : FileTree := { nodes := [([plain], .file content), ([other], .file content)] }
    fileSettings t { config := some plain } = .ok { password := some "p" } ∧
      ∀ new, ofArguments (t.set [other] (.file new)) { config := some other } =
        ofArguments t { config := some other } := by
  intro plain other content t
  obtain ⟨hfound, -, htext, -, -⟩ := named_file_read t { config := some plain } plain [plain]
    content rfl (by decide +kernel) (by decide +kernel)
  obtain ⟨-, hlost, -, -, hno⟩ := named_file_read t { config := some other } other [other]
    content rfl (by decide +kernel) (by decide +kernel)
  have hanchored : Anchored t := by
    rw [Anchored]
    decide +kernel
  have hplain := (htext hanchored (by decide)).2 (by decide)
  refine ⟨(hfound hplain).trans (by decide +kernel), hlost ?_ (by simp)⟩
  exact hno other (by decide) (by decide)

/-- Three files that can be read and are not: one has a name that is no text, one such a name and a
file beside it that it is taken for, and one is named by a way that is too long from the root. -/
theorem not_named_file_read :
    let other : Path := [0xFF]
    let file : Path := Utf8.encode "x"
    let long : Path := dots 2047 ++ file
    let content := Utf8.encode "password=p\n"
    let alone : FileTree := { nodes := [([other], .file content)] }
    let beside := alone.set [Utf8.encode "\ufffd"] (.file (Utf8.encode "password=q\n"))
    let plain : FileTree := { nodes := [([file], .file content)] }
    (alone.read other = .ok content ∧
      load alone other = .error (.notFound (Utf8.decodeLossy other))) ∧
    (beside.read other = .ok content ∧ load beside other = .ok { password := some "q" }) ∧
    plain.read long = .ok content ∧
      load plain long = .error (.notFound (Utf8.decodeLossy long)) := by
  intro other file long content alone beside plain
  have hends : Ends file file := ⟨by decide, by decide, .inl rfl⟩
  have hlength : long.length = 4095 := by
    rw [List.length_append, length_dots]
    rfl
  have hlocate : plain.locate long = .ok [file] :=
    locate_dots hends (by decide) (by rw [hlength]; decide) (by decide +kernel)
  refine ⟨by decide +kernel, by decide +kernel, ?_, ?_⟩
  · have hn : plain.node? [file] = some (.file content) := by decide
    rw [read_of_locate hlocate hn, if_neg (ends_dots hends 2047).not_endsInSlash]
  · apply load_of_long (ends_dots hends 2047) (by decide)
    -- From the root there is one slash more.
    have hvalid : Utf8.isValid long := by
      rw [isValid_dots_append]
      decide
    have hrel : ¬Path.isAbsolute long := not_isAbsolute_dots_append (by decide) 2047
    rw [lookedUp, Utf8.asText_of_isValid hvalid, absolute, if_neg hrel, List.length_append,
      List.length_cons, hlength]
    decide

end Configuration

end RemoteBatch.Settings
