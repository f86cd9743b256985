import RemoteBatch.Proofs.Settings.WellFormed

/-! Which commands are refused, and which fault of a list is the one that is reported. -/

namespace RemoteBatch.Command

open Text (AllBlank)

inductive Offends (command : String) : Fault → Prop
  | empty (h : AllBlank command.toList) : Offends command .empty
  | containsNul (h : '\x00' ∈ command.toList) :
      Offends command (.containsNul (Text.trim command))

def FirstOffends (commands : List String) (fault : Fault) : Prop :=
  ∃ front command back, commands = front ++ command :: back ∧ Offends command fault ∧
    ∀ ahead ∈ front, ∀ other, ¬Offends ahead other

variable {command trimmed : String} {commands sanitized : List String} {fault : Fault}

lemma trim_eq_empty_iff : Text.trim command = "" ↔ AllBlank command.toList := by
  rw [← Text.trimChars_eq_nil_iff, Text.trim, String.ofList_eq_empty_iff]

lemma nul_mem_trim_iff : '\x00' ∈ (Text.trim command).toList ↔ '\x00' ∈ command.toList := by
  rw [Text.trim, String.toList_ofList, Text.mem_trimChars_iff (by decide)]

lemma sanitize_eq_error_iff : sanitize command = .error fault ↔ Offends command fault := by
  simp only [sanitize, List.contains_iff_mem, nul_mem_trim_iff]
  split
  next hblank =>
    rw [String.isEmpty_iff, trim_eq_empty_iff] at hblank
    -- A blank text has no NUL in it, so this is its one fault.
    have hnul : '\x00' ∉ command.toList := fun hmem => absurd (hblank _ hmem) (by decide)
    constructor
    · rintro ⟨⟩
      exact .empty hblank
    · rintro (_ | hmem)
      · rfl
      · exact absurd hmem hnul
  next hblank =>
    rw [String.isEmpty_iff, trim_eq_empty_iff] at hblank
    split
    next hnul =>
      constructor
      · rintro ⟨⟩
        exact .containsNul hnul
      · rintro (h | _)
        · exact absurd h hblank
        · rfl
    next hnul =>
      constructor
      · rintro ⟨⟩
      · rintro (h | hmem)
        · exact absurd h hblank
        · exact absurd hmem hnul

lemma sanitize_eq_ok_iff :
    sanitize command = .ok trimmed ↔
      (∀ fault, ¬Offends command fault) ∧ trimmed = Text.trim command := by
  simp only [← sanitize_eq_error_iff]
  simp only [sanitize]
  split
  · simp
  · split <;> simp [eq_comm]

lemma Sound.not_offends (h : Sound command) (fault : Fault) : ¬Offends command fault := by
  rintro (hblank | hnul)
  · exact h.nonempty (h.trim.symm.trans (trim_eq_empty_iff.2 hblank))
  · exact h.noNul hnul

section MapM

variable {α β ε : Type} {f : α → Except ε β} {xs : List α} {e : ε}

lemma mapM_eq_error_iff :
    xs.mapM f = .error e ↔
      ∃ front x back, xs = front ++ x :: back ∧ f x = .error e ∧
        ∀ y ∈ front, ∀ other, f y ≠ .error other := by
  induction xs with
  | nil => simp [pure, Except.pure]
  | cons x xs ih =>
    rw [List.mapM_cons, bind_eq_error]
    constructor
    · rintro (hx | ⟨z, hz, hrest⟩)
      · exact ⟨[], x, xs, rfl, hx, by simp⟩
      · rcases bind_eq_error.1 hrest with hrest | ⟨zs, -, ⟨⟩⟩
        obtain ⟨front, y, back, rfl, hy, hfront⟩ := ih.1 hrest
        have hx : ∀ other, f x ≠ .error other := by simp [hz]
        exact ⟨x :: front, y, back, rfl, hy, List.forall_mem_cons.2 ⟨hx, hfront⟩⟩
    · rintro ⟨front, y, back, hxs, hy, hfront⟩
      cases front with
      | nil =>
        obtain ⟨rfl, rfl⟩ := List.cons.inj hxs
        exact .inl hy
      | cons x' front =>
        obtain ⟨rfl, rfl⟩ := List.cons.inj hxs
        obtain ⟨hx, hrest⟩ := List.forall_mem_cons.1 hfront
        cases hz : f x with
        | error other => exact absurd hz (hx other)
        | ok z =>
          have hfirst := ih.2 ⟨front, y, back, rfl, hy, hrest⟩
          exact .inr ⟨z, rfl, bind_eq_error.2 (.inl hfirst)⟩

end MapM

lemma mapM_sanitize_eq_ok_iff :
    commands.mapM sanitize = .ok sanitized ↔
      (∀ command ∈ commands, ∀ fault, ¬Offends command fault) ∧
        sanitized = commands.map Text.trim := by
  induction commands generalizing sanitized with
  | nil => simp [pure, Except.pure, eq_comm]
  | cons first commands ih =>
    rw [List.mapM_cons, bind_eq_ok, List.forall_mem_cons, List.map_cons]
    simp only [sanitize_eq_ok_iff, bind_eq_ok, ih]
    constructor
    · rintro ⟨_, ⟨hfirst, rfl⟩, _, ⟨hrest, rfl⟩, ⟨⟩⟩
      exact ⟨⟨hfirst, hrest⟩, rfl⟩
    · rintro ⟨⟨hfirst, hrest⟩, rfl⟩
      exact ⟨_, ⟨hfirst, rfl⟩, _, ⟨hrest, rfl⟩, rfl⟩

lemma sanitizeAll_eq_ok_iff :
    sanitizeAll commands = .ok sanitized ↔
      commands ≠ [] ∧ (∀ command ∈ commands, ∀ fault, ¬Offends command fault) ∧
        sanitized = commands.map Text.trim := by
  simp only [sanitizeAll, bind_eq_ok, mapM_sanitize_eq_ok_iff]
  constructor
  · rintro ⟨_, ⟨hnone, rfl⟩, h⟩
    split at h
    next => cases h
    next hne =>
      cases h
      exact ⟨by simpa using hne, hnone, rfl⟩
  · rintro ⟨hne, hnone, rfl⟩
    exact ⟨_, ⟨hnone, rfl⟩, by rw [if_neg (by simpa using hne)]⟩

lemma map_trim_of_sound (h : ∀ command ∈ commands, Sound command) :
    commands.map Text.trim = commands :=
  (List.map_congr_left fun command hmem => (h command hmem).trim).trans (List.map_id _)

lemma sanitizeAll_of_sound (hne : commands ≠ []) (h : ∀ command ∈ commands, Sound command) :
    sanitizeAll commands = .ok commands :=
  sanitizeAll_eq_ok_iff.2
    ⟨hne, fun command hmem => (h command hmem).not_offends, (map_trim_of_sound h).symm⟩

lemma sanitizeAll_eq_error_iff :
    sanitizeAll commands = .error fault ↔
      FirstOffends commands fault ∨ commands = [] ∧ fault = .noCommands := by
  have hfirst : FirstOffends commands fault ↔ commands.mapM sanitize = .error fault := by
    simp only [FirstOffends, mapM_eq_error_iff, ne_eq, sanitize_eq_error_iff]
  rw [hfirst, sanitizeAll]
  cases hm : commands.mapM sanitize with
  | error other =>
    have hne : commands ≠ [] := by
      rintro rfl
      cases hm
    simp [bind, Except.bind, hne]
  | ok sanitized =>
    obtain ⟨-, rfl⟩ := mapM_sanitize_eq_ok_iff.1 hm
    by_cases hne : commands = []
    · simp [bind, Except.bind, hne, eq_comm]
    · simp [bind, Except.bind, hne]

end RemoteBatch.Command
