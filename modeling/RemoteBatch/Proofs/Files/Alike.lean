import Mathlib.Data.Set.Insert
import RemoteBatch.Proofs.Files.Append

/-! Trees that agree but for what some files hold. Every path leads to the same place in both; unless
it leads to such a file, what is read there is the same, and so is what is made or appended. -/

namespace RemoteBatch

def Node.isFile : Node → Bool
  | .file _ => true
  | .directory => false

namespace FileTree

lemma node?_set (t : FileTree) (p q : Place) (n : Node) :
    (t.set p n).node? q = if q = p ∧ p ≠ [] then some n else t.node? q := by
  by_cases hq : q = p
  · subst hq
    by_cases h0 : q = []
    · simp [node?, h0]
    · simp [node?_set_self t n h0, h0]
  · simp [node?_set_of_ne t n hq, hq]

lemma ensureAll_cons_of_missing {t : FileTree} {p : Path} {outer : List Path}
    (h : (t.ensureOne p).2 = .error (.os .notFound)) :
    t.ensureAll (p :: outer) =
      match t.ensureAll outer with
      | (u, .ok ()) => u.ensureOne p
      | failed => failed := by
  rw [ensureAll_cons]
  rcases ho : t.ensureOne p with ⟨u, r⟩
  rw [ho] at h
  subst h
  rfl

lemma ensureAll_cons_of_settled {t : FileTree} {p : Path} {outer : List Path}
    (h : (t.ensureOne p).2 ≠ .error (.os .notFound)) :
    t.ensureAll (p :: outer) = t.ensureOne p := by
  rw [ensureAll_cons]
  split
  next ho => exact absurd (by rw [ho]) h
  next => rfl

structure AlikeBut (hidden : Set Place) (t t' : FileTree) : Prop where
  working : t'.working = t.working
  home : t'.home = t.home
  elsewhere : ∀ q, q ∉ hidden → t'.node? q = t.node? q
  shape : ∀ q, (t'.node? q).map Node.isFile = (t.node? q).map Node.isFile

def Misses (t : FileTree) (p : Path) (hidden : Set Place) : Prop :=
  ∀ q ∈ hidden, t.locate p ≠ .ok q

@[simp] lemma misses_empty (t : FileTree) (p : Path) : t.Misses p ∅ := by simp [Misses]

@[simp] lemma misses_singleton {t : FileTree} {p : Path} {q : Place} :
    t.Misses p {q} ↔ t.locate p ≠ .ok q := by
  simp [Misses]

def ChangedAlike (hidden : Set Place) (x x' : FileTree × Except FileFault Unit) : Prop :=
  ∃ u u' r, x = (u, r) ∧ x' = (u', r) ∧ AlikeBut hidden u u'

namespace AlikeBut

variable {hidden : Set Place} {t t' : FileTree} {p : Path}

lemma refl (hidden : Set Place) (t : FileTree) : AlikeBut hidden t t :=
  ⟨rfl, rfl, fun _ _ => rfl, fun _ => rfl⟩

lemma of_file {place : Place} {old : Bytes} (h : t.node? place = some (.file old)) (new : Bytes) :
    AlikeBut {place} t (t.set place (.file new)) := by
  refine ⟨rfl, rfl, fun q hq => node?_set_of_ne t _ hq, fun q => ?_⟩
  rw [node?_set]
  split_ifs with hq
  · rw [hq.1, h]
    rfl
  · rfl

lemma set (h : AlikeBut hidden t t') (q : Place) (n : Node) :
    AlikeBut hidden (t.set q n) (t'.set q n) := by
  refine ⟨h.working, h.home, fun r hr => ?_, fun r => ?_⟩
  · rw [node?_set, node?_set, h.elsewhere r hr]
  · rw [node?_set, node?_set]
    split
    · rfl
    · exact h.shape r

lemma node?_cases (h : AlikeBut hidden t t') (q : Place) :
    (t.node? q = none ∧ t'.node? q = none) ∨
    (t.node? q = some .directory ∧ t'.node? q = some .directory) ∨
    ∃ c c', t.node? q = some (.file c) ∧ t'.node? q = some (.file c') := by
  have hs := h.shape q
  rcases hn : t.node? q with - | ⟨c | -⟩ <;> rcases hn' : t'.node? q with - | ⟨c' | -⟩ <;>
    simp [hn, hn', Node.isFile] at hs ⊢

lemma walk_eq (h : AlikeBut hidden t t') (here : Place) (names : List Bytes) :
    t'.walk here names = t.walk here names := by
  induction names generalizing here with
  | nil =>
    rcases h.node?_cases here with ⟨hn, hn'⟩ | ⟨hn, hn'⟩ | ⟨c, c', hn, hn'⟩
    · rw [walk.eq_1 _ _ _ hn, walk.eq_1 _ _ _ hn']
    · rw [walk.eq_3 _ _ hn, walk.eq_3 _ _ hn']
    · rw [walk.eq_2 _ _ _ _ hn, walk.eq_2 _ _ _ _ hn']
  | cons name rest ih =>
    rcases h.node?_cases here with ⟨hn, hn'⟩ | ⟨hn, hn'⟩ | ⟨c, c', hn, hn'⟩
    · rw [walk.eq_1 _ _ _ hn, walk.eq_1 _ _ _ hn']
    · rw [walk.eq_4 _ _ _ _ hn, walk.eq_4 _ _ _ _ hn']
      simp only [ih]
    · rw [walk.eq_2 _ _ _ _ hn, walk.eq_2 _ _ _ _ hn']

lemma approach_eq (h : AlikeBut hidden t t') (p : Path) : t'.approach p = t.approach p := by
  simp only [approach, h.walk_eq, h.working]

lemma locate_eq (h : AlikeBut hidden t t') (p : Path) : t'.locate p = t.locate p := by
  simp only [locate, h.approach_eq]

lemma isFile_eq (h : AlikeBut hidden t t') (p : Path) : t'.isFile p = t.isFile p := by
  simp only [isFile, find, h.locate_eq]
  cases t.locate p with
  | error fault => rfl
  | ok q =>
    rcases h.node?_cases q with ⟨hn, hn'⟩ | ⟨hn, hn'⟩ | ⟨c, c', hn, hn'⟩
    · simp only [bind, Except.bind, hn, hn']
    · simp only [bind, Except.bind, hn, hn']
    · simp only [bind, Except.bind, hn, hn']
      split_ifs <;> rfl

lemma isDirectory_eq (h : AlikeBut hidden t t') (p : Path) : t'.isDirectory p = t.isDirectory p := by
  simp only [isDirectory, find, h.locate_eq]
  cases t.locate p with
  | error fault => rfl
  | ok q =>
    rcases h.node?_cases q with ⟨hn, hn'⟩ | ⟨hn, hn'⟩ | ⟨c, c', hn, hn'⟩
    · simp only [bind, Except.bind, hn, hn']
    · simp only [bind, Except.bind, hn, hn']
    · simp only [bind, Except.bind, hn, hn']
      split_ifs <;> rfl

lemma find_eq (h : AlikeBut hidden t t') (hp : t.Misses p hidden) : t'.find p = t.find p := by
  simp only [find, h.locate_eq]
  cases hl : t.locate p with
  | error fault => rfl
  | ok q =>
    have hq : q ∉ hidden := fun hm => hp q hm hl
    simp only [bind, Except.bind, h.elsewhere q hq]

lemma read_eq (h : AlikeBut hidden t t') (hp : t.Misses p hidden) : t'.read p = t.read p := by
  simp only [read, h.find_eq hp]

lemma makeDirectory (h : AlikeBut hidden t t') (p : Path) :
    Agree (AlikeBut hidden) (t.makeDirectory p) (t'.makeDirectory p) := by
  simp only [FileTree.makeDirectory, h.approach_eq]
  refine .of_forall_ok fun r hr => ?_
  split
  · exact .error _
  · refine .of_forall_ok fun q hq => ?_
    rcases h.node?_cases q with ⟨hn, hn'⟩ | ⟨hn, hn'⟩ | ⟨c, c', hn, hn'⟩
    · rw [hn, hn']
      exact .ok (h.set q .directory)
    · rw [hn, hn']
      exact .error _
    · rw [hn, hn']
      exact .error _

lemma ensureDirectory (h : AlikeBut hidden t t') (p : Path) :
    Agree (AlikeBut hidden) (t.ensureDirectory p) (t'.ensureDirectory p) := by
  simp only [FileTree.ensureDirectory, h.isDirectory_eq]
  obtain ⟨fault, hm, hm'⟩ | ⟨u, u', hm, hm', hu⟩ := (h.makeDirectory p).eq_or
  · rw [hm, hm']
    dsimp only
    split
    · exact .ok h
    · exact .error fault
  · rw [hm, hm']
    exact .ok hu

lemma ensureOne (h : AlikeBut hidden t t') (p : Path) :
    ChangedAlike hidden (t.ensureOne p) (t'.ensureOne p) := by
  obtain ⟨fault, he, he'⟩ | ⟨u, u', he, he', hu⟩ := (h.ensureDirectory p).eq_or
  · rw [FileTree.ensureOne, FileTree.ensureOne, he, he']
    exact ⟨t, t', .error fault, rfl, rfl, h⟩
  · rw [FileTree.ensureOne, FileTree.ensureOne, he, he']
    exact ⟨u, u', .ok (), rfl, rfl, hu⟩

lemma ensureAll (h : AlikeBut hidden t t') (ps : List Path) :
    ChangedAlike hidden (t.ensureAll ps) (t'.ensureAll ps) := by
  induction ps with
  | nil => exact ⟨t, t', .ok (), rfl, rfl, h⟩
  | cons p outer ih =>
    obtain ⟨u, u', r, ho, ho', hu⟩ := h.ensureOne p
    by_cases hr : r = .error (.os .notFound)
    · subst hr
      rw [ensureAll_cons_of_missing (by rw [ho]), ensureAll_cons_of_missing (by rw [ho'])]
      obtain ⟨v, v', r, ha, ha', hv⟩ := ih
      rw [ha, ha']
      cases r with
      | error fault => exact ⟨v, v', .error fault, rfl, rfl, hv⟩
      | ok _ => exact hv.ensureOne p
    · rw [ensureAll_cons_of_settled (by rw [ho]; exact hr),
        ensureAll_cons_of_settled (by rw [ho']; exact hr)]
      exact ⟨u, u', r, ho, ho', hu⟩

lemma openAppend_eq (h : AlikeBut hidden t t') (hp : t.Misses p hidden) :
    t'.openAppend p = t.openAppend p := by
  simp only [openAppend, h.approach_eq]
  rcases ha : t.approach p with fault | ⟨here, name⟩
  · rfl
  · simp only [bind, Except.bind]
    split
    · rfl
    · rcases hs : step here name with fault | q
      · rfl
      · have hq : q ∉ hidden := fun hm => hp q hm (locate_eq_ok_iff.2 ⟨here, name, ha, hs⟩)
        simp only [Except.mapError, h.elsewhere q hq]

lemma append (h : AlikeBut hidden t t') (hp : t.Misses p hidden) (addition : Bytes → Bytes) :
    Agree (AlikeBut hidden) (t.append p addition) (t'.append p addition) := by
  simp only [FileTree.append, h.openAppend_eq hp]
  exact .of_forall_ok fun r hr => .ok (h.set _ _)

end AlikeBut

end FileTree

end RemoteBatch
