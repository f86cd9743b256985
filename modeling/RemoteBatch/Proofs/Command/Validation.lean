import RemoteBatch.Proofs.Command.Offenders

/-! Which lists of commands pass and what they become. What is looked at is the text of each command
without the blanks round it, so a list that has passed passes again as it is, and two lists pass
together just when each of them does. -/

namespace RemoteBatch.Command

open Text (AllBlank)

def Pads (command padded : String) : Prop :=
  ∃ before after, AllBlank before ∧ AllBlank after ∧
    padded.toList = before ++ command.toList ++ after

/-- What a list that passes becomes; an empty one, which is refused alone, stays empty. -/
inductive Becomes : List String → List String → Prop
  | nil : Becomes [] []
  | passed {commands sanitized : List String} (h : sanitizeAll commands = .ok sanitized) :
      Becomes commands sanitized

variable {command padded : String} {commands later sanitized : List String} {fault : Fault}

lemma not_offends_iff :
    (∀ fault, ¬Offends command fault) ↔
      Text.trim command ≠ "" ∧ '\x00' ∉ (Text.trim command).toList := by
  rw [ne_eq, trim_eq_empty_iff, nul_mem_trim_iff]
  constructor
  · intro h
    exact ⟨fun hblank => h _ (.empty hblank), fun hnul => h _ (.containsNul hnul)⟩
  · rintro ⟨hblank, hnul⟩ fault (h | h)
    · exact hblank h
    · exact hnul h

lemma exists_sanitizeAll_iff :
    (∃ sanitized, sanitizeAll commands = .ok sanitized) ↔
      commands ≠ [] ∧ ∀ command ∈ commands,
        Text.trim command ≠ "" ∧ '\x00' ∉ (Text.trim command).toList := by
  simp only [sanitizeAll_eq_ok_iff, not_offends_iff]
  constructor
  · rintro ⟨_, hne, hnone, -⟩
    exact ⟨hne, hnone⟩
  · rintro ⟨hne, hnone⟩
    exact ⟨_, hne, hnone, rfl⟩

lemma sanitizeAll_of_sanitizeAll (h : sanitizeAll commands = .ok sanitized) :
    sanitizeAll sanitized = .ok sanitized := by
  obtain ⟨hne, hsound⟩ := sound_of_sanitizeAll h
  exact sanitizeAll_of_sound hne hsound

lemma sanitizeAll_eq_error_iff_of_ne_nil (hne : commands ≠ []) :
    sanitizeAll commands = .error fault ↔ FirstOffends commands fault := by
  rw [sanitizeAll_eq_error_iff]
  constructor
  · rintro (h | ⟨hnil, -⟩)
    · exact h
    · exact absurd hnil hne
  · exact .inl

lemma Pads.trim_eq (h : Pads command padded) : Text.trim padded = Text.trim command := by
  obtain ⟨before, after, hb, ha, heq⟩ := h
  rw [Text.trim, heq, Text.trimChars_padded hb ha, Text.trim]

lemma Pads.sanitize_eq (h : Pads command padded) : sanitize padded = sanitize command := by
  simp only [sanitize, h.trim_eq]

lemma sanitizeAll_padded {paddeds : List String} (h : List.Forall₂ Pads commands paddeds) :
    sanitizeAll paddeds = sanitizeAll commands := by
  have hm : paddeds.mapM sanitize = commands.mapM sanitize := by
    induction h with
    | nil => rfl
    | cons hfirst _ ih => rw [List.mapM_cons, List.mapM_cons, hfirst.sanitize_eq, ih]
  rw [sanitizeAll, hm, sanitizeAll]

lemma becomes_iff :
    Becomes commands sanitized ↔
      (∀ command ∈ commands, ∀ fault, ¬Offends command fault) ∧
        sanitized = commands.map Text.trim := by
  constructor
  · rintro (_ | h)
    · simp
    · exact (sanitizeAll_eq_ok_iff.1 h).2
  · rintro ⟨hnone, rfl⟩
    by_cases hne : commands = []
    · subst hne
      exact .nil
    · exact .passed (sanitizeAll_eq_ok_iff.2 ⟨hne, hnone, rfl⟩)

lemma sanitizeAll_append_eq_ok_iff :
    sanitizeAll (commands ++ later) = .ok sanitized ↔
      (commands ≠ [] ∨ later ≠ []) ∧
        ∃ front back, Becomes commands front ∧ Becomes later back ∧ sanitized = front ++ back := by
  have hne : commands ++ later ≠ [] ↔ commands ≠ [] ∨ later ≠ [] := by
    rw [ne_eq, List.append_eq_nil_iff, not_and_or]
  rw [sanitizeAll_eq_ok_iff, hne, List.forall_mem_append, List.map_append]
  simp only [becomes_iff]
  constructor
  · rintro ⟨hne, ⟨hfront, hback⟩, rfl⟩
    exact ⟨hne, _, _, ⟨hfront, rfl⟩, ⟨hback, rfl⟩, rfl⟩
  · rintro ⟨hne, _, _, ⟨hfront, rfl⟩, ⟨hback, rfl⟩, rfl⟩
    exact ⟨hne, ⟨hfront, hback⟩, rfl⟩

/-- A list passes if it has a command and every command in it has a text without NUL, and becomes
the list of these texts, which passes as it is. In a list that is refused the first command that is
decides. Blanks round commands make no difference, and lists pass together if each does alone or is
empty, and then become what they become one behind the other. -/
theorem sanitizeAll_decided (commands : List String) :
    ((∃ sanitized, sanitizeAll commands = .ok sanitized) ↔
      commands ≠ [] ∧ ∀ command ∈ commands,
        Text.trim command ≠ "" ∧ '\x00' ∉ (Text.trim command).toList) ∧
    (∀ sanitized, sanitizeAll commands = .ok sanitized →
      sanitized = commands.map Text.trim ∧ sanitizeAll sanitized = .ok sanitized) ∧
    (commands ≠ [] → ∀ fault,
      sanitizeAll commands = .error fault ↔ FirstOffends commands fault) ∧
    (∀ padded, List.Forall₂ Pads commands padded →
      sanitizeAll padded = sanitizeAll commands) ∧
    ∀ later sanitized, sanitizeAll (commands ++ later) = .ok sanitized ↔
      (commands ≠ [] ∨ later ≠ []) ∧
        ∃ front back, Becomes commands front ∧ Becomes later back ∧ sanitized = front ++ back := by
  refine ⟨exists_sanitizeAll_iff, fun sanitized h => ?_, fun hne fault => ?_,
    fun padded h => sanitizeAll_padded h, fun later sanitized => sanitizeAll_append_eq_ok_iff⟩
  · obtain ⟨-, -, rfl⟩ := sanitizeAll_eq_ok_iff.1 h
    exact ⟨rfl, sanitizeAll_of_sanitizeAll h⟩
  · exact sanitizeAll_eq_error_iff_of_ne_nil hne

theorem sanitizeAll_decided_nul :
    let commands := ["uptime", "\x00ls", "\t"]
    let padded := [" uptime\u2003", "\x00ls ", "\t"]
    sanitizeAll padded = sanitizeAll commands ∧
      sanitizeAll commands = .error (.containsNul "\x00ls") ∧
      sanitizeAll ["uptime"] = .ok ["uptime"] ∧
      ¬∃ sanitized, sanitizeAll (["uptime"] ++ commands) = .ok sanitized := by
  intro commands padded
  have huptime : Pads "uptime" " uptime\u2003" :=
    ⟨[' '], ['\u2003'], by decide, by decide, by decide⟩
  have hls : Pads "\x00ls" "\x00ls " := ⟨[], [' '], by decide, by decide, by decide⟩
  have htab : Pads "\t" "\t" := ⟨[], [], by decide, by decide, by decide⟩
  have hfirst : FirstOffends commands (.containsNul (Text.trim "\x00ls")) := by
    refine ⟨["uptime"], "\x00ls", ["\t"], rfl, .containsNul (by decide), ?_⟩
    intro ahead hahead
    obtain rfl := List.mem_singleton.1 hahead
    exact not_offends_iff.2 ⟨by decide, by decide⟩
  obtain ⟨hpasses, hbecomes, -, -, -⟩ := sanitizeAll_decided ["uptime"]
  obtain ⟨-, -, herror, hpadded, -⟩ := sanitizeAll_decided commands
  obtain ⟨sanitized, hs⟩ := hpasses.2 ⟨by decide, by decide⟩
  obtain ⟨rfl, hagain⟩ := hbecomes sanitized hs
  have hrefused := (herror (by decide) _).2 hfirst
  refine ⟨hpadded padded (.cons huptime (.cons hls (.cons htab .nil))), hrefused, hagain, ?_⟩
  rintro ⟨sanitized, h⟩
  obtain ⟨-, front, back, -, hback, -⟩ :=
    ((sanitizeAll_decided ["uptime"]).2.2.2.2 commands sanitized).1 h
  exact (becomes_iff.1 hback).1 "\x00ls" (by decide) _ (.containsNul (by decide))

end RemoteBatch.Command
