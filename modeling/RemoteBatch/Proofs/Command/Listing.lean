import RemoteBatch.Proofs.Command.Offenders
import RemoteBatch.Proofs.Text.Written

/-! The commands that the lines of a text list, if any, in the order of the lines. Nothing but a NUL
outside the comments keeps them from being accepted. -/

namespace RemoteBatch.Command

open Text (AllBlank HasLines trimChars)

structure Listable (command : String) : Prop extends Sound command where
  oneLine : '\n' ∉ command.toList
  noMark : command.toList.head? ≠ some '#'

instance (command : String) : Decidable (Listable command) :=
  decidable_of_iff
    (((Text.trim command = command ∧ command ≠ "") ∧ '\x00' ∉ command.toList) ∧
      '\n' ∉ command.toList ∧ command.toList.head? ≠ some '#')
    ⟨fun h => ⟨⟨h.1.1.1, h.1.1.2, h.1.2⟩, h.2.1, h.2.2⟩,
      fun h => ⟨⟨⟨h.trim, h.nonempty⟩, h.noNul⟩, h.oneLine, h.noMark⟩⟩

def IsComment (line : List Char) : Prop :=
  ∃ before content, AllBlank before ∧ line = before ++ '#' :: content

inductive Lists : List (List Char) → List String → Prop
  | nil : Lists [] []
  | skip {line : List Char} {lines : List (List Char)} {commands : List String}
      (h : AllBlank line ∨ IsComment line) (hs : Lists lines commands) :
      Lists (line :: lines) commands
  | command {line before after : List Char} {command : String} {lines : List (List Char)}
      {commands : List String} (hb : AllBlank before) (ha : AllBlank after)
      (hl : line = before ++ command.toList ++ after) (hs : Lists lines commands) :
      Lists (line :: lines) (command :: commands)

inductive Refused (lines : List (List Char)) : Fault → Prop
  | containsNul {front back : List (List Char)} {line : List Char}
      (hl : lines = front ++ line :: back) (hnul : '\x00' ∈ line) (hc : ¬IsComment line)
      (hfront : ∀ ahead ∈ front, '\x00' ∈ ahead → IsComment ahead) :
      Refused lines (.containsNul (String.ofList (trimChars line)))
  | noCommands (h : ∀ line ∈ lines, AllBlank line ∨ IsComment line) : Refused lines .noCommands

variable {command : String} {commands : List String} {fault : Fault} {line before : List Char}
  {lines : List (List Char)}

def ofLine? (line : List Char) : Option String :=
  if isCommandLine (trimChars line) then some (String.ofList (trimChars line)) else none

lemma head?_trimChars_mark (hb : AllBlank before) (content : List Char) :
    (trimChars (before ++ '#' :: content)).head? = some '#' := by
  have htrim : trimChars (before ++ '#' :: content) = trimChars ('#' :: content) := by
    rw [← Text.trimChars_padded hb (show AllBlank [] by decide) ('#' :: content),
      List.append_nil]
  rw [htrim]
  obtain ⟨front, back, hfront, -, hcs⟩ := Text.exists_trimChars ('#' :: content)
  -- The mark is no blank, so nothing is cut ahead of it.
  have hnil : front = [] := by
    cases front with
    | nil => rfl
    | cons c front =>
      obtain ⟨rfl, -⟩ := List.cons.inj hcs
      exact absurd (hfront '#' List.mem_cons_self) (by decide)
  have hne := Text.trimChars_cons_ne_nil (show Text.isBlank '#' = false by decide) content
  rw [hnil, List.nil_append] at hcs
  have hhead := congrArg List.head? hcs
  rw [List.head?_append_of_ne_nil _ hne] at hhead
  exact hhead.symm

lemma isComment_iff : IsComment line ↔ (trimChars line).head? = some '#' := by
  constructor
  · rintro ⟨before, content, hb, rfl⟩
    exact head?_trimChars_mark hb content
  · intro h
    obtain ⟨content, hcontent⟩ := List.head?_eq_some_iff.1 h
    obtain ⟨before, after, hb, -, hline⟩ := Text.exists_trimChars line
    exact ⟨before, content ++ after, hb, hline.trans (by simp [hcontent])⟩

instance (line : List Char) : Decidable (IsComment line) := decidable_of_iff' _ isComment_iff

lemma isCommandLine_eq_false_iff :
    isCommandLine (trimChars line) = false ↔ AllBlank line ∨ IsComment line := by
  rw [isComment_iff, ← Text.trimChars_eq_nil_iff, isCommandLine]
  cases trimChars line <;> simp

lemma ofLine?_eq_none_iff : ofLine? line = none ↔ AllBlank line ∨ IsComment line := by
  rw [← isCommandLine_eq_false_iff, ofLine?]
  cases isCommandLine (trimChars line) <;> simp

lemma ofLine?_eq_some_iff :
    ofLine? line = some command ↔
      (¬AllBlank line ∧ ¬IsComment line) ∧ String.ofList (trimChars line) = command := by
  rw [← not_or, ← isCommandLine_eq_false_iff, ofLine?]
  cases isCommandLine (trimChars line) <;> simp

lemma offends_iff_of_ofLine? (h : ofLine? line = some command) :
    Offends command fault ↔
      '\x00' ∈ line ∧ fault = .containsNul (String.ofList (trimChars line)) := by
  obtain ⟨⟨hblank, -⟩, rfl⟩ := ofLine?_eq_some_iff.1 h
  have htrim := Text.trim_ofList_trimChars line
  have hnul : '\x00' ∈ trimChars line ↔ '\x00' ∈ line := Text.mem_trimChars_iff (by decide)
  constructor
  · rintro (h | h)
    · rw [String.toList_ofList, ← Text.trimChars_eq_nil_iff, Text.trimChars_trimChars,
        Text.trimChars_eq_nil_iff] at h
      exact absurd h hblank
    · rw [String.toList_ofList, hnul] at h
      exact ⟨h, by rw [htrim]⟩
  · rintro ⟨h, rfl⟩
    have hoffends := @Offends.containsNul (String.ofList (trimChars line))
      (by rwa [String.toList_ofList, hnul])
    rwa [htrim] at hoffends

lemma exists_offends (hnul : '\x00' ∈ line) (hmark : ¬IsComment line) :
    ∃ command, ofLine? line = some command ∧
      Offends command (.containsNul (String.ofList (trimChars line))) := by
  have hblank : ¬AllBlank line := fun h => absurd (h _ hnul) (by decide)
  have hline := ofLine?_eq_some_iff.2 ⟨⟨hblank, hmark⟩, rfl⟩
  exact ⟨_, hline, (offends_iff_of_ofLine? hline).2 ⟨hnul, rfl⟩⟩

lemma ofLine?_of_listable (hc : Listable command) {after : List Char} (hb : AllBlank before)
    (ha : AllBlank after) : ofLine? (before ++ command.toList ++ after) = some command := by
  have htrim : trimChars (before ++ command.toList ++ after) = command.toList := by
    rw [Text.trimChars_padded hb ha, ← String.toList_ofList (l := trimChars command.toList)]
    exact congrArg String.toList hc.trim
  have hline : isCommandLine command.toList := by
    simp [isCommandLine, hc.nonempty, hc.noMark]
  rw [ofLine?, htrim, if_pos hline, String.ofList_toList]

lemma listable_of_ofLine? (h : ofLine? line = some command) (hline : '\n' ∉ line)
    (hnul : '\x00' ∉ line) : Listable command := by
  obtain ⟨⟨hblank, hmark⟩, rfl⟩ := ofLine?_eq_some_iff.1 h
  have hsub := (Text.trimChars_sublist line).subset
  refine ⟨⟨Text.trim_ofList_trimChars line, ?_, ?_⟩, ?_, ?_⟩
  · rwa [ne_eq, String.ofList_eq_empty_iff, Text.trimChars_eq_nil_iff]
  · rw [String.toList_ofList]
    exact fun hmem => hnul (hsub hmem)
  · rw [String.toList_ofList]
    exact fun hmem => hline (hsub hmem)
  · rwa [String.toList_ofList, ne_eq, ← isComment_iff]

lemma lists_filterMap (lines : List (List Char)) : Lists lines (lines.filterMap ofLine?) := by
  induction lines with
  | nil => exact .nil
  | cons line lines ih =>
    rw [List.filterMap_cons]
    cases hl : ofLine? line with
    | none => exact .skip (ofLine?_eq_none_iff.1 hl) ih
    | some command =>
      obtain ⟨-, rfl⟩ := ofLine?_eq_some_iff.1 hl
      obtain ⟨before, after, hb, ha, hline⟩ := Text.exists_trimChars line
      exact .command hb ha (by rwa [String.toList_ofList]) ih

lemma lists_toList (commands : List String) : Lists (commands.map String.toList) commands := by
  induction commands with
  | nil => exact .nil
  | cons command commands ih =>
    have hnil : AllBlank [] := by decide
    exact .command hnil hnil (by simp) ih

lemma filterMap_of_lists (h : Lists lines commands) (hc : ∀ command ∈ commands, Listable command) :
    lines.filterMap ofLine? = commands := by
  induction h with
  | nil => rfl
  | skip hl _ ih =>
    rw [List.filterMap_cons, ofLine?_eq_none_iff.2 hl]
    exact ih hc
  | command hb ha hl _ ih =>
    obtain ⟨hcommand, hrest⟩ := List.forall_mem_cons.1 hc
    rw [hl, List.filterMap_cons, ofLine?_of_listable hcommand hb ha, ih hrest]

lemma refused_of_firstOffends (h : FirstOffends (lines.filterMap ofLine?) fault) :
    Refused lines fault := by
  obtain ⟨front, command, back, hsplit, hoffends, hfront⟩ := h
  obtain ⟨ahead, rest, rfl, rfl, hrest⟩ := List.filterMap_eq_append_iff.1 hsplit
  obtain ⟨skipped, line, behind, rfl, hskipped, hline, -⟩ := List.filterMap_eq_cons_iff.1 hrest
  obtain ⟨hnul, rfl⟩ := (offends_iff_of_ofLine? hline).1 hoffends
  obtain ⟨⟨-, hmark⟩, -⟩ := ofLine?_eq_some_iff.1 hline
  have hl : ahead ++ (skipped ++ line :: behind) = (ahead ++ skipped) ++ line :: behind := by simp
  refine .containsNul hl hnul hmark fun other hother hnul' => ?_
  -- Otherwise it would hold a command that offends, ahead of the first that does.
  by_contra hmark'
  obtain ⟨command', hcommand', hoffends'⟩ := exists_offends hnul' hmark'
  rcases List.mem_append.1 hother with hother | hother
  · exact hfront command' (List.mem_filterMap.2 ⟨other, hother, hcommand'⟩) _ hoffends'
  · rw [hskipped other hother] at hcommand'
    cases hcommand'

lemma firstOffends_of_nul {front : List (List Char)} (hnul : '\x00' ∈ line)
    (hmark : ¬IsComment line) (hfront : ∀ ahead ∈ front, '\x00' ∈ ahead → IsComment ahead)
    (back : List (List Char)) :
    FirstOffends ((front ++ line :: back).filterMap ofLine?)
      (.containsNul (String.ofList (trimChars line))) := by
  obtain ⟨command, hline, hoffends⟩ := exists_offends hnul hmark
  refine ⟨front.filterMap ofLine?, command, back.filterMap ofLine?, ?_, hoffends, ?_⟩
  · rw [List.filterMap_append, List.filterMap_cons, hline]
  · intro command' hmem other hoffends'
    obtain ⟨ahead, hahead, hcommand'⟩ := List.mem_filterMap.1 hmem
    obtain ⟨hnul', -⟩ := (offends_iff_of_ofLine? hcommand').1 hoffends'
    exact (ofLine?_eq_some_iff.1 hcommand').1.2 (hfront ahead hahead hnul')

lemma sanitizeAll_filterMap_eq_error_iff :
    sanitizeAll (lines.filterMap ofLine?) = .error fault ↔ Refused lines fault := by
  rw [sanitizeAll_eq_error_iff, List.filterMap_eq_nil_iff]
  simp only [ofLine?_eq_none_iff]
  constructor
  · rintro (h | ⟨hnone, rfl⟩)
    · exact refused_of_firstOffends h
    · exact .noCommands hnone
  · rintro (⟨rfl, hnul, hmark, hfront⟩ | hnone)
    · exact .inl (firstOffends_of_nul hnul hmark hfront _)
    · exact .inr ⟨hnone, rfl⟩

lemma sanitizeAll_filterMap_eq_ok_iff (hlines : ∀ line ∈ lines, '\n' ∉ line) :
    sanitizeAll (lines.filterMap ofLine?) = .ok commands ↔
      commands ≠ [] ∧ (∀ command ∈ commands, Listable command) ∧ Lists lines commands := by
  constructor
  · intro h
    obtain ⟨hne, hnone, rfl⟩ := sanitizeAll_eq_ok_iff.1 h
    have hc : ∀ command ∈ lines.filterMap ofLine?, Listable command := by
      intro command hmem
      obtain ⟨line, hl, hline⟩ := List.mem_filterMap.1 hmem
      have hnul : '\x00' ∉ line := fun hnul =>
        hnone command hmem _ ((offends_iff_of_ofLine? hline).2 ⟨hnul, rfl⟩)
      exact listable_of_ofLine? hline (hlines line hl) hnul
    rw [map_trim_of_sound fun command hmem => (hc command hmem).toSound]
    exact ⟨hne, hc, lists_filterMap lines⟩
  · rintro ⟨hne, hc, hs⟩
    rw [filterMap_of_lists hs hc]
    exact sanitizeAll_of_sound hne fun command hmem => (hc command hmem).toSound

lemma trimChars_dropLast {cs : List Char} {c : Char} (hc : Text.isBlank c)
    (h : cs.getLast? = some c) : trimChars cs.dropLast = trimChars cs := by
  rw [← Text.trimChars_append (show AllBlank [c] by simpa [AllBlank] using hc),
    List.dropLast_append_getLast? c h]

lemma trimChars_dropLineEnd (piece : List Char) :
    trimChars (Text.dropLineEnd piece) = trimChars piece := by
  simp only [Text.dropLineEnd]
  split
  next hfeed =>
    rw [← trimChars_dropLast (by decide) hfeed]
    split
    next hreturn => exact trimChars_dropLast (by decide) hreturn
    · rfl
  · rfl

lemma ofLine?_congr {other : List Char} (h : trimChars other = trimChars line) :
    ofLine? other = ofLine? line := by
  rw [ofLine?, h, ofLine?]

lemma ofLine?_ended (line : List Char) (e : Text.LineEnd) :
    ofLine? (Text.dropLineEnd (line ++ e.chars)) = ofLine? line := by
  apply ofLine?_congr
  rw [trimChars_dropLineEnd, Text.trimChars_append]
  cases e <;> simp [AllBlank, Text.LineEnd.chars] <;> decide

lemma filterMap_lines_last {last : List Char} (h : '\n' ∉ last) :
    (Text.lines last).filterMap ofLine? = [last].filterMap ofLine? := by
  rcases eq_or_ne last [] with rfl | hne
  · rfl
  · rw [Text.lines_of_notMem hne h]

lemma ofText_eq_filterMap (text : String) :
    ofText text = (Text.lines text.toList).filterMap ofLine? := by
  rw [ofText]
  induction Text.lines text.toList with
  | nil => rfl
  | cons line lines ih =>
    rw [List.filterMap_cons, ofLine?, ← ih, List.map_cons, List.filter_cons]
    split <;> rfl

lemma ofText_of_hasLines {text : String} (h : HasLines text.toList lines) :
    ofText text = lines.filterMap ofLine? := by
  rw [ofText_eq_filterMap]
  generalize text.toList = cs at h
  have hended {ls : List (List Char × Text.LineEnd)} :
      (ls.map fun l => Text.dropLineEnd (l.1 ++ l.2.chars)).filterMap ofLine? =
        (ls.map Prod.fst).filterMap ofLine? := by
    rw [List.filterMap_map, List.filterMap_map]
    exact List.filterMap_congr fun l _ => ofLine?_ended l.1 l.2
  cases h with
  | @ended ls h =>
    have hlines := Text.lines_written_append h []
    rw [List.append_nil] at hlines
    rw [hlines, List.filterMap_append, hended]
    exact List.append_nil _
  | unended h hlast =>
    rw [Text.lines_written_append h, List.filterMap_append, List.filterMap_append, hended,
      filterMap_lines_last hlast]

end RemoteBatch.Command
