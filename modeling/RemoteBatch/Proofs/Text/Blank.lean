import Mathlib.Data.List.DropRight
import RemoteBatch.Text.Lines

/-! Trimmed text: it has no blanks round it, and something is left of it if anything in it is not
blank. -/

namespace RemoteBatch.Text

lemma trimEndChars_eq (cs : List Char) : trimEndChars cs = cs.rdropWhile isBlank := rfl

lemma trimStartChars_of_prefix {cs ds : List Char} (h : ds <+: cs) (hcs : trimStartChars cs = cs) :
    trimStartChars ds = ds := by
  cases ds with
  | nil => rfl
  | cons d ds =>
    apply List.dropWhile_cons_of_neg
    intro hd
    obtain ⟨later, rfl⟩ := h
    rw [trimStartChars, List.cons_append, List.dropWhile_cons_of_pos hd] at hcs
    have hlen := (List.dropWhile_suffix (l := ds ++ later) isBlank).length_le
    rw [hcs] at hlen
    exact Nat.not_succ_le_self _ hlen

lemma trimChars_trimChars (cs : List Char) : trimChars (trimChars cs) = trimChars cs := by
  have hstart : trimStartChars (trimChars cs) = trimChars cs := by
    apply trimStartChars_of_prefix (List.rdropWhile_prefix isBlank _)
    exact List.dropWhile_idempotent _ _
  rw [trimChars, hstart, trimChars]
  exact List.rdropWhile_idempotent _ _

@[simp] lemma trim_trim (s : String) : trim (trim s) = trim s := by
  rw [trim, trim, String.toList_ofList, trimChars_trimChars]

lemma trim_ofList_trimChars (cs : List Char) :
    trim (String.ofList (trimChars cs)) = String.ofList (trimChars cs) := by
  rw [trim, String.toList_ofList, trimChars_trimChars]

lemma trimChars_cons_ne_nil {c : Char} (h : isBlank c = false) (cs : List Char) :
    trimChars (c :: cs) ≠ [] := by
  have hstart : trimStartChars (c :: cs) = c :: cs :=
    List.dropWhile_cons_of_neg (by simp [h])
  rw [trimChars, hstart, trimEndChars_eq, ne_eq, List.rdropWhile_eq_nil_iff]
  intro hall
  have hc := hall c List.mem_cons_self
  rw [h] at hc
  cases hc

lemma trimChars_of_forall {cs : List Char} (h : ∀ c ∈ cs, isBlank c = false) :
    trimChars cs = cs := by
  have hstart : trimStartChars cs = cs := by
    cases cs with
    | nil => rfl
    | cons c cs => exact List.dropWhile_cons_of_neg (by simp [h c List.mem_cons_self])
  rw [trimChars, hstart, trimEndChars_eq, List.rdropWhile_eq_self_iff]
  intro hne
  simp [h _ (List.getLast_mem hne)]

def AllBlank (cs : List Char) : Prop := ∀ c ∈ cs, isBlank c

instance (cs : List Char) : Decidable (AllBlank cs) :=
  decidable_of_iff (cs.all isBlank = true) List.all_eq_true

variable {before cs after : List Char}

lemma exists_trimChars (cs : List Char) :
    ∃ before after, AllBlank before ∧ AllBlank after ∧ cs = before ++ trimChars cs ++ after := by
  refine ⟨cs.takeWhile isBlank, (trimStartChars cs).rtakeWhile isBlank, fun c hc => ?_,
    fun c hc => List.mem_rtakeWhile_imp hc, ?_⟩
  · exact List.mem_takeWhile_imp hc
  · rw [List.append_assoc, trimChars, trimEndChars_eq, List.rdropWhile_append_rtakeWhile,
      trimStartChars, List.takeWhile_append_dropWhile]

lemma AllBlank.append (hb : AllBlank before) (ha : AllBlank after) :
    AllBlank (before ++ after) := by
  intro c hc
  rcases List.mem_append.1 hc with hc | hc
  · exact hb c hc
  · exact ha c hc

lemma trimChars_eq_nil_iff : trimChars cs = [] ↔ AllBlank cs := by
  constructor
  · intro h
    obtain ⟨before, after, hb, ha, hcs⟩ := exists_trimChars cs
    rw [h, List.append_nil] at hcs
    rw [hcs]
    exact hb.append ha
  · intro h
    have hstart : trimStartChars cs = [] := List.dropWhile_eq_nil_iff.2 h
    rw [trimChars, hstart]
    rfl

lemma trimEndChars_append (h : AllBlank after) (cs : List Char) :
    trimEndChars (cs ++ after) = trimEndChars cs := by
  rw [trimEndChars, List.reverse_append, List.dropWhile_append_of_pos (by simpa [AllBlank] using h)]
  rfl

lemma trimChars_append (h : AllBlank after) (cs : List Char) :
    trimChars (cs ++ after) = trimChars cs := by
  by_cases hcs : AllBlank cs
  · rw [trimChars_eq_nil_iff.2 hcs, trimChars_eq_nil_iff.2 (hcs.append h)]
  · have hstart : trimStartChars (cs ++ after) = trimStartChars cs ++ after := by
      rw [trimStartChars, List.dropWhile_append, if_neg]
      · rfl
      · rw [List.isEmpty_iff, List.dropWhile_eq_nil_iff]
        exact hcs
    rw [trimChars, hstart, trimEndChars_append h, trimChars]

lemma trimChars_padded (hb : AllBlank before) (ha : AllBlank after) (cs : List Char) :
    trimChars (before ++ cs ++ after) = trimChars cs := by
  rw [trimChars_append ha, trimChars, trimStartChars, List.dropWhile_append_of_pos hb]
  rfl

lemma trimChars_sublist (cs : List Char) : (trimChars cs).Sublist cs :=
  (List.rdropWhile_prefix isBlank _).sublist.trans (List.dropWhile_sublist isBlank)

lemma mem_trimChars_iff {c : Char} (h : isBlank c = false) : c ∈ trimChars cs ↔ c ∈ cs := by
  refine ⟨fun hc => (trimChars_sublist cs).subset hc, fun hc => ?_⟩
  obtain ⟨before, after, hb, ha, hcs⟩ := exists_trimChars cs
  rw [hcs, List.mem_append, List.mem_append] at hc
  rcases hc with (hc | hc) | hc
  · simpa [h] using hb c hc
  · exact hc
  · simpa [h] using ha c hc

end RemoteBatch.Text
