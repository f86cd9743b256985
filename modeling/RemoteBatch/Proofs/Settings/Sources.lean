import RemoteBatch.Proofs.Files.Alike
import RemoteBatch.Settings.Configuration

/-! The files that a configuration comes from. What other files hold makes no difference. -/

namespace RemoteBatch.Settings

variable {hidden : Set Place} {t t' : FileTree}

namespace FileSettings

lemma absolute_eq (h : FileTree.AlikeBut hidden t t') (p : Path) : absolute t' p = absolute t p := by
  simp only [absolute, h.working]

lemma origin_eq (h : FileTree.AlikeBut hidden t t') (p : Path) : origin t' p = origin t p := by
  simp only [origin, absolute_eq h, h.working]

lemma locate_eq (h : FileTree.AlikeBut hidden t t') (name : String) :
    locate t' name = locate t name := by
  simp only [locate, absolute_eq h, h.isFile_eq]

lemma load_eq (h : FileTree.AlikeBut hidden t t') {p : Path}
    (hp : ∀ path, locate t (Utf8.decodeLossy p) = .ok path → t.Misses path hidden) :
    load t' p = load t p := by
  simp only [load, locate_eq h, origin_eq h]
  cases hl : locate t (Utf8.decodeLossy p) with
  | error fault => rfl
  | ok path => simp only [bind, Except.bind, h.read_eq (hp path hl)]

end FileSettings

namespace Configuration

def sources (t : FileTree) (a : Arguments) : List Path :=
  (a.config.bind fun p => (FileSettings.locate t (Utf8.decodeLossy p)).toOption).toList ++
    a.commandsFile.toList

lemma commandsOf_eq (h : FileTree.AlikeBut hidden t t') {a : Arguments}
    (ha : ∀ path, a.commandsFile = some path → t.Misses path hidden) :
    commandsOf t' a = commandsOf t a := by
  simp only [commandsOf]
  split
  next path hf => simp only [CommandFile.read, FileTree.readText, h.read_eq (ha path hf)]
  next => rfl

lemma ofArguments_eq (h : FileTree.AlikeBut hidden t t') {a : Arguments}
    (ha : ∀ path ∈ sources t a, t.Misses path hidden) :
    ofArguments t' a = ofArguments t a := by
  have hfile : fileSettings t' a = fileSettings t a := by
    simp only [fileSettings]
    split
    next => rfl
    next p hp =>
      rw [FileSettings.load_eq h]
      intro path hl
      apply ha
      simp [sources, hp, hl, Except.toOption]
  have hcommands : commandsOf t' a = commandsOf t a := by
    apply commandsOf_eq h
    intro path hp
    apply ha
    simp [sources, hp]
  simp only [ofArguments, hfile, hcommands]

end Configuration

end RemoteBatch.Settings
