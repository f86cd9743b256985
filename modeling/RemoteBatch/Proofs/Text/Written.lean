import RemoteBatch.Proofs.Text.Lines

/-! Texts written line by line, each line with an end of its own. They are read back as their lines,
and every text is one of them with what follows the last line end. -/

namespace RemoteBatch.Text

inductive LineEnd
  | lineFeed
  | carriageReturn
  deriving DecidableEq, Repr

namespace LineEnd

def chars : LineEnd → List Char
  | lineFeed => ['\n']
  | carriageReturn => ['\r', '\n']

/-- Whether a line has this end. A carriage return ahead of a line feed is part of the end. -/
structure Ends (e : LineEnd) (line : List Char) : Prop where
  notMem : '\n' ∉ line
  getLast? : e = lineFeed → line.getLast? ≠ some '\r'

instance (e : LineEnd) (line : List Char) : Decidable (e.Ends line) :=
  decidable_of_iff ('\n' ∉ line ∧ (e = lineFeed → line.getLast? ≠ some '\r'))
    ⟨fun h => ⟨h.1, h.2⟩, fun h => ⟨h.notMem, h.getLast?⟩⟩

end LineEnd

def written (ls : List (List Char × LineEnd)) : List Char := ls.flatMap fun l => l.1 ++ l.2.chars

variable {line rest : List Char} {e : LineEnd} {ls : List (List Char × LineEnd)}

@[simp] lemma written_cons (l : List Char × LineEnd) (ls : List (List Char × LineEnd)) :
    written (l :: ls) = l.1 ++ l.2.chars ++ written ls := by
  simp [written]

lemma dropLineEnd_carriageReturn (line : List Char) :
    dropLineEnd (line ++ LineEnd.carriageReturn.chars) = line := by
  simp [dropLineEnd, LineEnd.chars]

lemma dropLineEnd_of_ends (h : e.Ends line) : dropLineEnd (line ++ e.chars) = line := by
  cases e with
  | lineFeed => simp [dropLineEnd, LineEnd.chars, h.getLast? rfl]
  | carriageReturn => exact dropLineEnd_carriageReturn line

lemma lines_ended_append (h : '\n' ∉ line) (e : LineEnd) (rest : List Char) :
    lines (line ++ e.chars ++ rest) = dropLineEnd (line ++ e.chars) :: lines rest := by
  cases e with
  | lineFeed => simpa [LineEnd.chars] using lines_line_append h rest
  | carriageReturn =>
    have hr : '\n' ∉ line ++ ['\r'] := by simp [h]
    simpa [LineEnd.chars] using lines_line_append hr rest

lemma lines_written_append (h : ∀ l ∈ ls, '\n' ∉ l.1) (rest : List Char) :
    lines (written ls ++ rest) =
      ls.map (fun l => dropLineEnd (l.1 ++ l.2.chars)) ++ lines rest := by
  induction ls with
  | nil => rfl
  | cons l ls ih =>
    obtain ⟨hl, hls⟩ := List.forall_mem_cons.1 h
    rw [written_cons, List.append_assoc, lines_ended_append hl, ih hls]
    rfl

lemma lines_written (h : ∀ l ∈ ls, l.2.Ends l.1) : lines (written ls) = ls.map Prod.fst := by
  have hread := lines_written_append (fun l hl => (h l hl).notMem) []
  rw [List.append_nil] at hread
  rw [hread]
  exact (List.append_nil _).trans (List.map_congr_left fun l hl => dropLineEnd_of_ends (h l hl))

lemma lines_intercalate {ls : List (List Char)} (hne : ∀ line ∈ ls, line ≠ [])
    (h : ∀ line ∈ ls, LineEnd.lineFeed.Ends line) : lines (['\n'].intercalate ls) = ls := by
  induction ls with
  | nil => rfl
  | cons line ls ih =>
    obtain ⟨hline, hls⟩ := List.forall_mem_cons.1 h
    obtain ⟨hfirst, hrest⟩ := List.forall_mem_cons.1 hne
    cases ls with
    | nil => rw [List.intercalate_singleton, lines_of_notMem hfirst hline.notMem]
    | cons next ls =>
      rw [List.intercalate_cons_cons]
      refine (lines_ended_append hline.notMem .lineFeed _).trans ?_
      rw [dropLineEnd_of_ends hline, ih hrest hls]

lemma ends_cons (h : e.Ends line) {c : Char} (hc : c ≠ '\n')
    (hr : c = '\r' → line = [] → e ≠ .lineFeed) : e.Ends (c :: line) := by
  refine ⟨by simp [h.notMem, hc.symm], fun he => ?_⟩
  rcases eq_or_ne line [] with rfl | hne
  · simpa using fun hcr => hr hcr rfl he
  · rw [List.getLast?_cons_of_ne_nil hne]
    exact h.getLast? he

lemma exists_written (text : List Char) :
    ∃ ls last, text = written ls ++ last ∧ (∀ l ∈ ls, l.2.Ends l.1) ∧ '\n' ∉ last := by
  induction text with
  | nil => exact ⟨[], [], rfl, by simp, by simp⟩
  | cons c text ih =>
    obtain ⟨ls, last, rfl, hls, hlast⟩ := ih
    by_cases hc : c = '\n'
    · subst hc
      refine ⟨([], .lineFeed) :: ls, last, by simp [LineEnd.chars], ?_, hlast⟩
      exact List.forall_mem_cons.2 ⟨⟨by simp, by simp⟩, hls⟩
    rcases ls with - | ⟨⟨line, e⟩, ls⟩
    · exact ⟨[], c :: last, rfl, by simp, by simp [hlast, Ne.symm hc]⟩
    obtain ⟨hline, hrest⟩ := List.forall_mem_cons.1 hls
    -- A carriage return in front of a line feed joins the end, all else joins the line.
    by_cases hr : c = '\r' ∧ line = [] ∧ e = .lineFeed
    · obtain ⟨rfl, rfl, rfl⟩ := hr
      refine ⟨([], .carriageReturn) :: ls, last, by simp [LineEnd.chars], ?_, hlast⟩
      exact List.forall_mem_cons.2 ⟨⟨by simp, by simp⟩, hrest⟩
    · refine ⟨(c :: line, e) :: ls, last, by simp, List.forall_mem_cons.2 ⟨?_, hrest⟩, hlast⟩
      exact ends_cons hline hc fun hcr hnil he => hr ⟨hcr, hnil, he⟩

/-- A text of lines, each with some end, which the last may lack. A carriage return ahead of a line
feed may count to the line. -/
inductive HasLines : List Char → List (List Char) → Prop
  | ended {ls : List (List Char × LineEnd)} (h : ∀ l ∈ ls, '\n' ∉ l.1) :
      HasLines (written ls) (ls.map Prod.fst)
  | unended {ls : List (List Char × LineEnd)} {last : List Char} (h : ∀ l ∈ ls, '\n' ∉ l.1)
      (hlast : '\n' ∉ last) : HasLines (written ls ++ last) (ls.map Prod.fst ++ [last])

lemma exists_hasLines (text : List Char) : ∃ lines, HasLines text lines := by
  obtain ⟨ls, last, rfl, hls, hlast⟩ := exists_written text
  exact ⟨_, .unended (fun l hl => (hls l hl).notMem) hlast⟩

lemma HasLines.notMem {text : List Char} {lines : List (List Char)} (h : HasLines text lines) :
    ∀ line ∈ lines, '\n' ∉ line := by
  cases h with
  | ended h => exact List.forall_mem_map.2 h
  | unended h hlast =>
    exact List.forall_mem_append.2 ⟨List.forall_mem_map.2 h, by simpa using hlast⟩

end RemoteBatch.Text
