import RemoteBatch.Files.Tree
import RemoteBatch.Proofs.Except

/-! Appending to a file leaves the way to it open: what was appended is read, and the next addition
goes behind it. -/

namespace RemoteBatch.FileTree

variable {t u : FileTree} {p : Path} {q : Place}

lemma ne_nil_of_node?_ne (hq : t.node? q ≠ some .directory) : q ≠ [] := by
  rintro rfl
  exact hq rfl

lemma node?_of_walk {here there : Place} {names : List Bytes}
    (h : t.walk here names = .ok there) : t.node? here = some .directory := by
  rcases hn : t.node? here with - | ⟨content | -⟩
  · rw [walk.eq_1 _ _ _ hn] at h
    cases h
  · rw [walk.eq_2 _ _ _ _ hn] at h
    cases h
  · rfl

lemma walk_set (n : Node) (hq : t.node? q ≠ some .directory) {here there : Place}
    {names : List Bytes} (h : t.walk here names = .ok there) :
    (t.set q n).walk here names = .ok there := by
  -- A walk that arrives has only been in directories, so never at `q`.
  induction names generalizing here with
  | nil =>
    have hd := node?_of_walk h
    have hne : here ≠ q := fun he => hq (he ▸ hd)
    rw [walk.eq_3 _ _ hd] at h
    rwa [walk.eq_3 _ _ (by rwa [node?_set_of_ne t n hne])]
  | cons name rest ih =>
    have hd := node?_of_walk h
    have hne : here ≠ q := fun he => hq (he ▸ hd)
    rw [walk.eq_4 _ _ _ _ hd] at h
    rw [walk.eq_4 _ _ _ _ (by rwa [node?_set_of_ne t n hne])]
    cases hs : step here name with
    | error fault =>
      rw [hs] at h
      cases h
    | ok next =>
      rw [hs] at h
      exact ih h

lemma approach_set (n : Node) (hq : t.node? q ≠ some .directory) {r : Place × Bytes}
    (h : t.approach p = .ok r) : (t.set q n).approach p = .ok r := by
  simp only [approach, ite_error_eq_ok, bind_eq_ok, mapError_eq_ok] at h ⊢
  obtain ⟨hnul, hnil, hlen, here, hw, hr⟩ := h
  exact ⟨hnul, hnil, hlen, here, walk_set n hq hw, hr⟩

lemma locate_eq_ok_iff {place : Place} :
    t.locate p = .ok place ↔
      ∃ here name, t.approach p = .ok (here, name) ∧ step here name = .ok place := by
  simp [locate, bind_eq_ok, mapError_eq_ok]

lemma locate_set (n : Node) (hq : t.node? q ≠ some .directory) {place : Place}
    (h : t.locate p = .ok place) : (t.set q n).locate p = .ok place := by
  obtain ⟨here, name, ha, hs⟩ := locate_eq_ok_iff.1 h
  exact locate_eq_ok_iff.2 ⟨here, name, approach_set n hq ha, hs⟩

lemma isDirectory_iff :
    t.isDirectory p ↔ ∃ place, t.locate p = .ok place ∧ t.node? place = some .directory := by
  unfold isDirectory find
  cases hl : t.locate p with
  | error fault => simp [bind, Except.bind]
  | ok place =>
    rcases hn : t.node? place with - | ⟨content | -⟩ <;> simp [bind, Except.bind, hn]
    split_ifs <;> simp

lemma isDirectory_set (n : Node) (hq : t.node? q ≠ some .directory) (h : t.isDirectory p) :
    (t.set q n).isDirectory p := by
  obtain ⟨place, hl, hn⟩ := isDirectory_iff.1 h
  have hne : place ≠ q := fun he => hq (he ▸ hn)
  exact isDirectory_iff.2 ⟨place, locate_set n hq hl, by rwa [node?_set_of_ne t n hne]⟩

lemma makeDirectory_eq_ok (h : t.makeDirectory p = .ok u) :
    ∃ place, t.locate p = .ok place ∧ t.node? place = none ∧ u = t.set place .directory := by
  simp only [makeDirectory, bind_eq_ok, Prod.exists, ite_error_eq_ok, mapError_eq_ok] at h
  obtain ⟨here, name, ha, -, place, hs, h⟩ := h
  refine ⟨place, locate_eq_ok_iff.2 ⟨here, name, ha, hs⟩, ?_⟩
  cases hn : t.node? place with
  | some n =>
    rw [hn] at h
    cases h
  | none =>
    rw [hn] at h
    exact ⟨rfl, by simpa using h.symm⟩

lemma ensureDirectory_eq_ok (h : t.ensureDirectory p = .ok u) :
    t.makeDirectory p = .ok u ∨ u = t ∧ t.isDirectory p := by
  unfold ensureDirectory at h
  cases hm : t.makeDirectory p with
  | ok made =>
    rw [hm] at h
    exact .inl h
  | error fault =>
    rw [hm] at h
    dsimp only at h
    split_ifs at h with hd
    exact .inr ⟨by simpa using h.symm, hd⟩

lemma isDirectory_of_ensureDirectory (h : t.ensureDirectory p = .ok u) : u.isDirectory p := by
  rcases ensureDirectory_eq_ok h with hm | ⟨rfl, hd⟩
  · obtain ⟨place, hl, hn, rfl⟩ := makeDirectory_eq_ok hm
    have hq : t.node? place ≠ some .directory := by simp [hn]
    exact isDirectory_iff.2 ⟨place, locate_set _ hq hl, node?_set_self t _ (ne_nil_of_node?_ne hq)⟩
  · exact hd

lemma ensureDirectory_of_isDirectory (h : t.isDirectory p) : t.ensureDirectory p = .ok t := by
  obtain ⟨place, hl, hn⟩ := isDirectory_iff.1 h
  obtain ⟨here, name, ha, hs⟩ := locate_eq_ok_iff.1 hl
  have hm : t.makeDirectory p = .error (.os .exists) := by
    rw [makeDirectory, ha]
    by_cases he : Path.isEntry name <;> simp [bind, Except.bind, he, hs, hn, Except.mapError]
  rw [ensureDirectory, hm]
  exact if_pos h

lemma ensureAll_of_isDirectory (h : t.isDirectory p) (outer : List Path) :
    t.ensureAll (p :: outer) = (t, .ok ()) := by
  rw [ensureAll]
  simp [ensureDirectory_of_isDirectory h]

def ensureOne (t : FileTree) (p : Path) : FileTree × Except FileFault Unit :=
  match t.ensureDirectory p with
  | .ok t => (t, .ok ())
  | .error fault => (t, .error fault)

lemma ensureAll_cons (t : FileTree) (p : Path) (outer : List Path) :
    t.ensureAll (p :: outer) =
      match t.ensureOne p with
      | (_, .error (.os .notFound)) =>
        match t.ensureAll outer with
        | (t, .ok ()) => t.ensureOne p
        | failed => failed
      | settled => settled :=
  rfl

lemma isDirectory_of_ensureOne (h : t.ensureOne p = (u, .ok ())) : u.isDirectory p := by
  unfold ensureOne at h
  cases he : t.ensureDirectory p with
  | ok made =>
    rw [he] at h
    obtain rfl : made = u := congrArg Prod.fst h
    exact isDirectory_of_ensureDirectory he
  | error fault =>
    rw [he] at h
    cases h

lemma isDirectory_of_ensureAll {outer : List Path} (h : t.ensureAll (p :: outer) = (u, .ok ())) :
    u.isDirectory p := by
  rw [ensureAll_cons] at h
  -- Where outer directories were missing, the attempt is made again behind them.
  split at h
  · split at h
    · exact isDirectory_of_ensureOne h
    next hfailed =>
      exact absurd h (hfailed u)
  · exact isDirectory_of_ensureOne h

lemma ensureAll_set {ps : List Path} (h : t.ensureAll ps = (u, .ok ())) (n : Node)
    (hq : u.node? q ≠ some .directory) : (u.set q n).ensureAll ps = (u.set q n, .ok ()) := by
  cases ps with
  | nil => rfl
  | cons p outer =>
    exact ensureAll_of_isDirectory (isDirectory_set n hq (isDirectory_of_ensureAll h)) outer

lemma ensureAll_induction {P : FileTree → Prop}
    (hset : ∀ (t : FileTree) (q : Place), t.node? q = none → P t → P (t.set q .directory))
    (ps : List Path) (h : P t) : P (t.ensureAll ps).1 := by
  have hone : ∀ (t : FileTree) (p : Path), P t → P (t.ensureOne p).1 := by
    intro t p h
    unfold ensureOne
    cases he : t.ensureDirectory p with
    | error fault => exact h
    | ok made =>
      rcases ensureDirectory_eq_ok he with hm | ⟨rfl, -⟩
      · obtain ⟨place, -, hn, rfl⟩ := makeDirectory_eq_ok hm
        exact hset t place hn h
      · exact h
  induction ps with
  | nil => exact h
  | cons p outer ih =>
    rw [ensureAll_cons]
    split
    · split
      next made ho =>
        rw [ho] at ih
        exact hone made p ih
      · exact ih
    · exact hone t p h

lemma ensureAll_home (t : FileTree) (ps : List Path) : (t.ensureAll ps).1.home = t.home :=
  ensureAll_induction (P := fun u => u.home = t.home) (fun _ _ _ h => h) ps rfl

variable {place : Place} {content : Bytes}

lemma openAppend_eq_ok_iff :
    t.openAppend p = .ok (place, content) ↔ ∃ here name, t.approach p = .ok (here, name) ∧
      ¬(!Path.isEntry name ∨ Path.endsInSlash p) ∧ step here name = .ok place ∧
      (t.node? place = some (.file content) ∨ t.node? place = none ∧ content = []) := by
  simp only [openAppend, bind_eq_ok, Prod.exists, ite_error_eq_ok, mapError_eq_ok]
  refine exists_congr fun here => exists_congr fun name => and_congr_right fun _ =>
    and_congr_right fun _ => ?_
  constructor
  · rintro ⟨q, hs, hn⟩
    rcases hq : t.node? q with - | ⟨c | -⟩
    · rw [hq] at hn
      obtain ⟨rfl, rfl⟩ : q = place ∧ _ := by simpa using hn
      exact ⟨hs, .inr ⟨hq, rfl⟩⟩
    · rw [hq] at hn
      obtain ⟨rfl, rfl⟩ : q = place ∧ c = content := by simpa using hn
      exact ⟨hs, .inl hq⟩
    · rw [hq] at hn
      cases hn
  · rintro ⟨hs, hn | ⟨hn, rfl⟩⟩
    · exact ⟨place, hs, by rw [hn]⟩
    · exact ⟨place, hs, by rw [hn]⟩

lemma node?_of_openAppend (h : t.openAppend p = .ok (place, content)) :
    t.node? place ≠ some .directory := by
  obtain ⟨-, -, -, -, -, hn | ⟨hn, -⟩⟩ := openAppend_eq_ok_iff.1 h <;> simp [hn]

lemma openAppend_set (h : t.openAppend p = .ok (place, content)) (more : Bytes) :
    (t.set place (.file more)).openAppend p = .ok (place, more) := by
  have hq := node?_of_openAppend h
  obtain ⟨here, name, ha, he, hs, -⟩ := openAppend_eq_ok_iff.1 h
  exact openAppend_eq_ok_iff.2 ⟨here, name, approach_set _ hq ha, he, hs,
    .inl (node?_set_self t _ (ne_nil_of_node?_ne hq))⟩

lemma find_set (h : t.openAppend p = .ok (place, content)) (more : Bytes) :
    (t.set place (.file more)).find p = .ok (.file more) := by
  have hq := node?_of_openAppend h
  obtain ⟨here, name, ha, he, hs, -⟩ := openAppend_eq_ok_iff.1 h
  have hl := locate_set (.file more) hq (locate_eq_ok_iff.2 ⟨here, name, ha, hs⟩)
  rw [not_or] at he
  refine bind_eq_ok.2 ⟨place, hl, ?_⟩
  rw [node?_set_self t _ (ne_nil_of_node?_ne hq)]
  exact if_neg he.2

lemma find_eq_file_iff :
    t.find p = .ok (.file content) ↔
      ∃ place, t.locate p = .ok place ∧ t.node? place = some (.file content) ∧
        ¬Path.endsInSlash p := by
  simp only [find, bind_eq_ok]
  refine exists_congr fun place => and_congr_right fun _ => ?_
  rcases hn : t.node? place with - | ⟨c | -⟩
  · simp
  · simp [ite_error_eq_ok, and_comm]
  · simp

lemma find_ensureAll (h : t.find p = .ok (.file content)) (ps : List Path) :
    (t.ensureAll ps).1.find p = .ok (.file content) := by
  refine ensureAll_induction (P := fun u => u.find p = .ok (.file content)) ?_ ps h
  intro u q hq hu
  obtain ⟨place, hl, hn, hs⟩ := find_eq_file_iff.1 hu
  have hne : place ≠ q := by
    rintro rfl
    rw [hq] at hn
    cases hn
  exact find_eq_file_iff.2
    ⟨place, locate_set _ (by simp [hq]) hl, by rwa [node?_set_of_ne u _ hne], hs⟩

lemma openAppend_of_find (h : t.find p = .ok (.file content)) {more : Bytes}
    (ho : t.openAppend p = .ok (place, more)) : more = content := by
  obtain ⟨q, hl, hn, -⟩ := find_eq_file_iff.1 h
  obtain ⟨here, name, ha, -, hs, hm⟩ := openAppend_eq_ok_iff.1 ho
  have hq : q = place := by
    have hl' := locate_eq_ok_iff.2 ⟨here, name, ha, hs⟩
    rw [hl] at hl'
    exact Except.ok.inj hl'
  subst hq
  rw [hn] at hm
  rcases hm with hm | ⟨hm, -⟩
  · obtain rfl : content = more := by simpa using hm
    rfl
  · cases hm

/-- Where the directories of a path are there or can be made, and what is written to it then goes
behind `content`. -/
def AppendsTo (t : FileTree) (p : Path) (content : Bytes) : Prop :=
  ∃ u place, t.makeParents p = (u, .ok ()) ∧ u.openAppend p = .ok (place, content)

lemma AppendsTo.of_find {more : Bytes} (h : t.AppendsTo p more)
    (hf : t.find p = .ok (.file content)) : t.AppendsTo p content := by
  obtain ⟨u, place, hm, ho⟩ := h
  have hu := find_ensureAll hf (Path.parents p)
  rw [makeParents] at hm
  rw [hm] at hu
  obtain rfl := openAppend_of_find hu ho
  exact ⟨u, place, hm, ho⟩

theorem AppendsTo.append (h : t.AppendsTo p content) (addition : Bytes → Bytes) :
    ∃ u v, t.makeParents p = (u, .ok ()) ∧ u.append p addition = .ok v ∧
      v.find p = .ok (.file (content ++ addition content)) ∧
      v.AppendsTo p (content ++ addition content) ∧ v.home = t.home := by
  obtain ⟨u, place, hm, ho⟩ := h
  refine ⟨u, u.set place (.file (content ++ addition content)), hm, ?_, find_set ho _, ?_, ?_⟩
  · rw [FileTree.append, ho]
    rfl
  · exact ⟨_, place, ensureAll_set hm _ (node?_of_openAppend ho), openAppend_set ho _⟩
  · have hu := ensureAll_home t (Path.parents p)
    rw [makeParents] at hm
    rw [hm] at hu
    exact hu

end RemoteBatch.FileTree
