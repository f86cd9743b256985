import RemoteBatch.Proofs.Files.Append

/-! The last name of a path. It is the name of the file that the path leads to, whatever the path
goes through ahead of it. -/

namespace RemoteBatch

namespace Path

variable {p front : Path} {name : Bytes}

structure Ends (p : Path) (name : Bytes) : Prop where
  nonempty : name ≠ []
  noSlash : slash ∉ name
  eq : p = name ∨ ∃ front, p = front ++ slash :: name

lemma exists_ends (hne : p ≠ []) (hp : ¬endsInSlash p) : ∃ name, Ends p name := by
  by_cases hmem : slash ∈ p
  · -- The first slash from behind.
    obtain ⟨last, front, heq, hlast⟩ := List.eq_append_cons_of_mem (List.mem_reverse.2 hmem)
    have hp' : p = front.reverse ++ slash :: last.reverse := by
      rw [← List.reverse_inj, heq]
      simp
    have hne' : last.reverse ≠ [] := by
      intro h0
      apply hp
      rw [hp', h0]
      simp [endsInSlash]
    exact ⟨_, hne', by simpa using hlast, .inr ⟨_, hp'⟩⟩
  · exact ⟨p, hne, hmem, .inl rfl⟩

lemma Ends.append (h : Ends p name) (front : Path) : Ends (front ++ slash :: p) name := by
  refine ⟨h.nonempty, h.noSlash, .inr ?_⟩
  obtain rfl | ⟨before, rfl⟩ := h.eq
  · exact ⟨front, rfl⟩
  · exact ⟨front ++ slash :: before, by simp⟩

lemma Ends.concat (h : Ends p name) {more : Bytes} (hm : slash ∉ more) :
    Ends (p ++ more) (name ++ more) := by
  refine ⟨List.append_ne_nil_of_left_ne_nil h.nonempty _, ?_, ?_⟩
  · rw [List.mem_append, not_or]
    exact ⟨h.noSlash, hm⟩
  · obtain rfl | ⟨before, rfl⟩ := h.eq
    · exact .inl rfl
    · exact .inr ⟨before, by simp⟩

lemma Ends.not_endsInSlash (h : Ends p name) : ¬endsInSlash p := by
  have hlast : p.getLast? = name.getLast? := by
    obtain rfl | ⟨before, rfl⟩ := h.eq
    · rfl
    · simp [List.getLast?_append, List.getLast?_cons, List.getLast?_eq_some_getLast h.nonempty]
  rw [endsInSlash, hlast, beq_iff_eq]
  exact fun hs => h.noSlash (List.mem_of_getLast? hs)

lemma components_append (p q : Path) :
    components (p ++ slash :: q) = components p ++ components q := by
  rw [components, List.splitOn_append_cons_self, List.filter_append]
  rfl

lemma components_name (hne : name ≠ []) (h : slash ∉ name) : components name = [name] := by
  rw [components, List.splitOn_eq_singleton h, List.filter_cons_of_pos (by simpa using hne)]
  rfl

lemma Ends.components (h : Ends p name) : ∃ before, components p = before ++ [name] := by
  obtain rfl | ⟨before, rfl⟩ := h.eq
  · exact ⟨[], components_name h.nonempty h.noSlash⟩
  · exact ⟨_, by rw [components_append, components_name h.nonempty h.noSlash]⟩

lemma Ends.fileName? (h : Ends p name) (hs : name ≠ self) :
    fileName? p = if name = above then none else some name := by
  obtain ⟨before, hp⟩ := h.components
  rw [Path.fileName?, names, hp, List.filter_append, List.filter_cons_of_pos (by simpa using hs),
    List.filter_nil, List.getLast?_concat]

lemma intercalate_slash (walked name : Bytes) (rest : List Bytes) :
    [slash].intercalate ((walked ++ slash :: name) :: rest) =
      walked ++ slash :: [slash].intercalate (name :: rest) := by
  cases rest with
  | nil => simp [List.intercalate]
  | cons next rest => simp [List.intercalate]

lemma head?_reaches (hne : name ≠ []) (hs : name ≠ self) (walked : Path) (between : List Bytes) :
    (reaches walked (between ++ [name])).head? =
      some ([slash].intercalate (walked :: (between ++ [name]))) := by
  induction between generalizing walked with
  | nil =>
    rw [List.nil_append, reaches, if_neg (by simp [hne, hs])]
    simp [reaches, List.intercalate]
  | cons next between ih =>
    have hrest := ih (walked ++ slash :: next)
    rw [intercalate_slash] at hrest
    have heq : [slash].intercalate (walked :: (next :: between ++ [name])) =
        walked ++ slash :: [slash].intercalate (next :: (between ++ [name])) := by
      simp [List.intercalate]
    rw [List.cons_append, reaches, ← List.cons_append, heq]
    split_ifs
    · exact hrest
    · rw [List.head?_append, hrest]
      rfl

lemma Ends.trimmed (h : Ends p name) (hs : name ≠ self) : trimmed p = p := by
  have hp : p ≠ [] := by
    obtain rfl | ⟨before, rfl⟩ := h.eq
    · exact h.nonempty
    · simp
  rw [Path.trimmed, ancestors, if_neg hp]
  obtain rfl | ⟨before, rfl⟩ := h.eq
  · rw [List.splitOn_eq_singleton h.noSlash]
    simp [reaches, h.nonempty]
  · obtain ⟨first, between, hb⟩ := List.exists_cons_of_ne_nil (List.splitOn_ne_nil slash before)
    have hsplit : (before ++ slash :: name).splitOn slash = first :: (between ++ [name]) := by
      rw [List.splitOn_append_cons_self, hb, List.splitOn_eq_singleton h.noSlash, List.cons_append]
    have hhead := head?_reaches h.nonempty hs first between
    rw [← hsplit, List.intercalate_splitOn] at hhead
    rw [hsplit]
    dsimp only
    rw [List.headD_eq_head?_getD, List.head?_append, hhead]
    rfl

end Path

namespace FileTree

variable {t : FileTree} {p : Path} {name : Bytes} {place : Place}

lemma walk_append (here : Place) (names more : List Bytes) :
    t.walk here (names ++ more) = t.walk here names >>= fun there => t.walk there more := by
  induction names generalizing here with
  | nil =>
    rcases hn : t.node? here with - | ⟨content | -⟩
    · rw [List.nil_append, walk.eq_1 _ _ _ hn, walk.eq_1 _ _ _ hn]
      rfl
    · rw [List.nil_append, walk.eq_2 _ _ _ _ hn, walk.eq_2 _ _ _ _ hn]
      rfl
    · rw [walk.eq_3 _ _ hn]
      rfl
  | cons next names ih =>
    rcases hn : t.node? here with - | ⟨content | -⟩
    · rw [walk.eq_1 _ _ _ hn, walk.eq_1 _ _ _ hn]
      rfl
    · rw [walk.eq_2 _ _ _ _ hn, walk.eq_2 _ _ _ _ hn]
      rfl
    · rw [List.cons_append, walk.eq_4 _ _ _ _ hn, walk.eq_4 _ _ _ _ hn]
      cases step here next with
      | error fault => rfl
      | ok there => exact ih there

lemma node?_of_walk_to {here there : Place} {names : List Bytes}
    (h : t.walk here names = .ok there) : t.node? there = some .directory := by
  have hon : t.walk here (names ++ []) = t.walk there [] := by
    rw [walk_append, h]
    rfl
  rw [List.append_nil, h] at hon
  exact node?_of_walk hon.symm

lemma locate_of_ends (h : p.Ends name) {before : List Bytes}
    (hc : Path.components p = before ++ [name]) :
    t.locate p = .ok place ↔ 0 ∉ p ∧ p.length < maxPath ∧
      ∃ here, t.walk (if Path.isAbsolute p then [] else t.working) before = .ok here ∧
        step here name = .ok place := by
  have hp : p ≠ [] := by
    rintro rfl
    have hnil : Path.components [] = [] := rfl
    simp [hnil] at hc
  simp only [locate_eq_ok_iff, approach, ite_error_eq_ok, bind_eq_ok, mapError_eq_ok, hc,
    List.dropLast_concat, List.getLastD_concat]
  constructor
  · rintro ⟨here, last, ⟨hnul, -, hlen, there, hw, he⟩, hs⟩
    cases he
    exact ⟨by simpa using hnul, Nat.lt_of_not_le hlen, here, hw, hs⟩
  · rintro ⟨hnul, hlen, here, hw, hs⟩
    exact ⟨here, name, ⟨by simpa using hnul, hp, Nat.not_le.2 hlen, here, hw, rfl⟩, hs⟩

lemma name_of_locate (h : p.Ends name) (hl : t.locate p = .ok place)
    (hd : t.node? place ≠ some .directory) :
    name ≠ Path.self ∧ (name ≠ Path.above → ∃ here, place = here ++ [name]) := by
  obtain ⟨before, hc⟩ := h.components
  obtain ⟨-, -, here, hw, hs⟩ := (locate_of_ends h hc).1 hl
  have hself : name ≠ Path.self := by
    rintro rfl
    cases hs
    exact hd (node?_of_walk_to hw)
  refine ⟨hself, fun ha => ?_⟩
  rw [step, if_neg hself, if_neg ha] at hs
  split_ifs at hs
  cases hs
  exact ⟨here, rfl⟩

end FileTree

end RemoteBatch
