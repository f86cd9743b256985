import Mathlib.Tactic.Common
import RemoteBatch.Text.Lines

/-! Lines of a text that grows at its end, and a line with what stands around it. -/

namespace RemoteBatch.Text

variable {α : Type} [BEq α] (sep : α)

lemma splitAfter_eq_nil_iff {cs : List α} : splitAfter sep cs = [] ↔ cs = [] := by
  constructor
  · intro h
    rw [← flatten_splitAfter sep cs, h]
    rfl
  · rintro rfl
    rfl

variable [LawfulBEq α]

lemma splitAfter_singleton : splitAfter sep [sep] = [[sep]] := by
  simp [splitAfter]

lemma splitAfter_cons_of_ne {a : α} (ha : a ≠ sep) {cs : List α} {piece : List α}
    {pieces : List (List α)} (h : splitAfter sep cs = piece :: pieces) :
    splitAfter sep (a :: cs) = (a :: piece) :: pieces := by
  rw [splitAfter, if_neg (by simpa using ha), h]

lemma splitAfter_line {line : List α} (h : sep ∉ line) :
    splitAfter sep (line ++ [sep]) = [line ++ [sep]] := by
  induction line with
  | nil => exact splitAfter_singleton sep
  | cons a line ih =>
    rw [List.mem_cons, not_or] at h
    exact splitAfter_cons_of_ne sep (Ne.symm h.1) (ih h.2)

lemma splitAfter_append {cs : List α} (h : cs.getLast? = some sep) (ds : List α) :
    splitAfter sep (cs ++ ds) = splitAfter sep cs ++ splitAfter sep ds := by
  induction cs with
  | nil => simp at h
  | cons a cs ih =>
    rcases eq_or_ne cs [] with rfl | hne
    · obtain rfl : a = sep := by simpa using h
      simp [splitAfter]
    · have ih := ih (by rwa [List.getLast?_cons_of_ne_nil hne] at h)
      obtain ⟨piece, pieces, hp⟩ := List.exists_cons_of_ne_nil
        (mt (splitAfter_eq_nil_iff sep).1 hne)
      by_cases ha : a = sep
      · subst ha
        simp [splitAfter, ih]
      · rw [List.cons_append, splitAfter_cons_of_ne sep ha hp,
          splitAfter_cons_of_ne sep ha (ih.trans (by rw [hp]; rfl))]
        rfl

lemma splitAfter_flatten {pieces : List (List α)} (h : ∀ p ∈ pieces, p.getLast? = some sep) :
    splitAfter sep pieces.flatten = pieces.flatMap (splitAfter sep) := by
  induction pieces with
  | nil => rfl
  | cons p pieces ih =>
    rw [List.flatten_cons, List.flatMap_cons, splitAfter_append sep (h p List.mem_cons_self),
      ih fun q hq => h q (List.mem_cons_of_mem p hq)]

lemma splitAfter_append_sep {cs : List α} (hne : cs ≠ []) (h : cs.getLast? ≠ some sep) :
    ∃ init last, last ≠ [] ∧ splitAfter sep cs = init ++ [last] ∧
      splitAfter sep (cs ++ [sep]) = init ++ [last ++ [sep]] := by
  induction cs with
  | nil => exact absurd rfl hne
  | cons a cs ih =>
    rcases eq_or_ne cs [] with rfl | hne'
    · have ha : a ≠ sep := by simpa using h
      exact ⟨[], [a], by simp, by simp [splitAfter, ha], by simp [splitAfter, ha]⟩
    · rw [List.getLast?_cons_of_ne_nil hne'] at h
      obtain ⟨init, last, hlast, hcs, hsep⟩ := ih hne' h
      by_cases ha : a = sep
      · subst ha
        exact ⟨[a] :: init, last, hlast, by simp [splitAfter, hcs], by simp [splitAfter, hsep]⟩
      · cases init with
        | nil =>
          exact ⟨[], a :: last, by simp, splitAfter_cons_of_ne sep ha hcs,
            splitAfter_cons_of_ne sep ha hsep⟩
        | cons piece init =>
          exact ⟨(a :: piece) :: init, last, hlast, splitAfter_cons_of_ne sep ha hcs,
            splitAfter_cons_of_ne sep ha hsep⟩

lemma splitAfter_of_notMem {cs : List α} (hne : cs ≠ []) (h : sep ∉ cs) :
    splitAfter sep cs = [cs] := by
  induction cs with
  | nil => exact absurd rfl hne
  | cons a cs ih =>
    rw [List.mem_cons, not_or] at h
    rcases eq_or_ne cs [] with rfl | hcs
    · simp [splitAfter, Ne.symm h.1]
    · exact splitAfter_cons_of_ne sep (Ne.symm h.1) (ih hcs h.2)

lemma lines_append {cs : List Char} (h : cs = [] ∨ cs.getLast? = some '\n') (ds : List Char) :
    lines (cs ++ ds) = lines cs ++ lines ds := by
  rcases h with rfl | h
  · rfl
  · simp [lines, splitAfter_append '\n' h]

lemma lines_line_append {line : List Char} (hn : '\n' ∉ line) (rest : List Char) :
    lines (line ++ '\n' :: rest) = dropLineEnd (line ++ ['\n']) :: lines rest := by
  have h := splitAfter_append '\n' (show (line ++ ['\n']).getLast? = some '\n' by simp) rest
  rw [splitAfter_line '\n' hn, List.append_assoc] at h
  exact congrArg (List.map dropLineEnd) h

lemma lines_of_notMem {line : List Char} (hne : line ≠ []) (h : '\n' ∉ line) :
    lines line = [line] := by
  have hlast : line.getLast? ≠ some '\n' := fun hl => h (List.mem_of_getLast? hl)
  rw [lines, splitAfter_of_notMem '\n' hne h]
  simp [dropLineEnd, hlast]

def BehindLine (cs : List Char) : Prop :=
  cs = [] ∨ ∃ rest, cs = '\n' :: rest ∨ cs = '\r' :: '\n' :: rest

lemma lines_of_behindLine {cs : List Char} (h : BehindLine cs) :
    ∃ later, ∀ line, line ≠ [] → '\n' ∉ line → line.getLast? ≠ some '\r' →
      lines (line ++ cs) = line :: later := by
  rcases h with rfl | ⟨rest, rfl | rfl⟩
  · refine ⟨[], fun line hne hn _ => ?_⟩
    rw [List.append_nil, lines_of_notMem hne hn]
  · refine ⟨lines rest, fun line _ hn hr => ?_⟩
    rw [lines_line_append hn]
    simp [dropLineEnd, hr]
  · refine ⟨lines rest, fun line _ hn _ => ?_⟩
    have h := lines_line_append (show '\n' ∉ line ++ ['\r'] by simp [hn]) rest
    simp only [List.append_assoc] at h
    refine h.trans ?_
    simp [dropLineEnd]

end RemoteBatch.Text
