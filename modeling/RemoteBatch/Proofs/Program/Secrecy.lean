import RemoteBatch.Proofs.Program.ExitCode
import RemoteBatch.Proofs.Remote.Verdict
import RemoteBatch.Proofs.Settings.StoredPassword

/-! Passwords do not show. Of two passwords that a server treats alike, each given in the place of
the other, nothing that the program does tells which it was given. -/

namespace RemoteBatch.Program

open Run Settings Settings.FileSettings

/-- A file that is read neither for commands nor for host keys. -/
structure SettingsOnly (m : Machine) (argv : List Bytes) (place : Place) : Prop where
  commands : ∀ a path, Arguments.parse argv m.environment = .ok a → a.commandsFile = some path →
    m.files.Misses path {place}
  hostKeys : ∀ c path, configure m argv = .ok c → c.dryRun = false →
    c.policy.knownHosts? m.files = some path → m.files.Avoids path {place}

/-- The same input with `p'` for the password `p`: as an option, in the environment, or in a line of
a file, which is then hidden. An option stands ahead of the separator. -/
inductive Swapped (p p' : String) :
    Set Place → Machine → List Bytes → Machine → List Bytes → Prop
  | option (m : Machine) (before after : List Bytes)
      (h : .separator ∉ before.map Arguments.Token.ofArgument) :
      Swapped p p' ∅ m (before ++ Utf8.encode ("--password=" ++ p) :: after)
        m (before ++ Utf8.encode ("--password=" ++ p') :: after)
  | environment (m : Machine) (argv : List Bytes) {environment : Environment}
      (h : m.environment.Swapped p p' environment) :
      Swapped p p' ∅ m argv { m with environment } argv
  | line (m : Machine) (argv : List Bytes) {place : Place} {front back : Bytes}
      (hfront : AheadOfLine front) (hback : BehindLine back)
      (hn : m.files.node? place = some (.file (front ++ passwordLine p ++ back)))
      (hm : SettingsOnly m argv place) :
      Swapped p p' {place} m argv
        { m with files := m.files.set place (.file (front ++ passwordLine p' ++ back)) } argv

structure Finish.Alike (hidden : Set Place) (f f' : Finish) : Prop where
  code : f'.code = f.code
  stdout : f'.stdout = f.stdout
  diagnostics : f'.diagnostics = f.diagnostics
  files : FileTree.AlikeBut hidden f.client.files f'.client.files

namespace Swapped

variable {p p' : String} {hidden : Set Place} {m m' : Machine} {argv argv' : List Bytes}
  (h : Swapped p p' hidden m argv m' argv')

include h

lemma files : FileTree.AlikeBut hidden m.files m'.files := by
  cases h with
  | option => exact .refl _ _
  | environment => exact .refl _ _
  | line _ _ _ _ hn => exact .of_file hn _

lemma network : m'.network = m.network := by
  cases h <;> rfl

lemma shutdown : Program.shutdown m' = Program.shutdown m := by
  cases h <;> rfl

lemma out : m'.out = m.out := by
  cases h <;> rfl

lemma logFilter (verbosity : Nat) :
    Program.logFilter m'.environment verbosity = Program.logFilter m.environment verbosity := by
  cases h with
  | option => rfl
  | environment _ _ he => rw [Program.logFilter, he.elsewhere _ (by decide), Program.logFilter]
  | line => rfl

lemma help (long : Bool) :
    Help.text .stream m'.environment long = Help.text .stream m.environment long := by
  cases h with
  | option => rfl
  | environment _ _ he => exact Help.text_variable he .stream long
  | line => rfl

lemma parse : Agree (Arguments.Swapped p p') (Arguments.parse argv m.environment)
    (Arguments.parse argv' m'.environment) := by
  cases h with
  | option _ before after hb => exact Arguments.parse_option hb after _ p p'
  | environment _ _ he => exact Arguments.parse_variable _ he
  | line => exact .refl (fun _ => .inl rfl) _

lemma ofArguments (hp : OneLine p) (hp' : OneLine p') {a a' : Arguments}
    (ha : Arguments.parse argv m.environment = .ok a)
    (ha' : Arguments.parse argv' m'.environment = .ok a') (hs : a.Swapped p p' a') :
    Agree (Configuration.Swapped p p') (Configuration.ofArguments m.files a)
      (Configuration.ofArguments m'.files a') := by
  cases h with
  | option => exact Configuration.ofArguments_given _ hs hp.nonempty hp'.nonempty
  | environment => exact Configuration.ofArguments_given _ hs hp.nonempty hp'.nonempty
  | @line _ _ place front back hfront hback hn hm =>
    obtain rfl : a = a' := Except.ok.inj (ha.symm.trans ha')
    have hplace : place ≠ [] := FileTree.ne_nil_of_node?_ne (t := m.files) (by simp [hn])
    have hholds : HoldsSwapped p p' place m.files
        (m.files.set place (.file (front ++ passwordLine p' ++ back))) :=
      ⟨.of_file hn _, front, back, hfront, hback, hn, FileTree.node?_set_self _ _ hplace⟩
    exact Configuration.ofArguments_stored hholds hp hp' fun path => hm.commands a path ha

lemma parse_or (hp : OneLine p) (hp' : OneLine p') :
    (∃ halt, Arguments.parse argv m.environment = .error halt ∧
      Arguments.parse argv' m'.environment = .error halt) ∨
    ∃ a a', Arguments.parse argv m.environment = .ok a ∧
      Arguments.parse argv' m'.environment = .ok a' ∧ a'.verbosity = a.verbosity ∧
      Agree (Configuration.Swapped p p') (Configuration.ofArguments m.files a)
        (Configuration.ofArguments m'.files a') := by
  obtain ⟨halt, ha, ha'⟩ | ⟨a, a', ha, ha', hs⟩ := h.parse.eq_or
  · exact .inl ⟨halt, ha, ha'⟩
  · refine .inr ⟨a, a', ha, ha', ?_, h.ofArguments hp hp' ha ha' hs⟩
    rcases hs with rfl | ⟨-, rfl⟩ <;> rfl

lemma configure (hp : OneLine p) (hp' : OneLine p') :
    Agree (Configuration.Swapped p p') (Program.configure m argv)
      (Program.configure m' argv') := by
  obtain ⟨halt, ha, ha'⟩ | ⟨a, a', ha, ha', -, hc⟩ := h.parse_or hp hp'
  · rw [configure_of_halt ha, configure_of_halt ha']
    exact .error _
  · rw [configure_of_parsed ha, configure_of_parsed ha']
    exact hc.mapError _

lemma halted (halt : Halt) :
    Finish.Alike hidden (Program.halted m halt) (Program.halted m' halt) := by
  cases halt with
  | usage e => exact ⟨rfl, rfl, rfl, h.files⟩
  | help long =>
    refine ⟨rfl, ?_, rfl, h.files⟩
    simp only [Program.halted, shown, h.help, h.out]
  | version =>
    refine ⟨rfl, ?_, rfl, h.files⟩
    simp only [Program.halted, shown, h.out]

end Swapped

variable {hidden : Set Place} {f f' : Finish}

lemma Finish.Alike.filtered (h : Finish.Alike hidden f f') (filter : LogFilter) :
    Finish.Alike hidden (Finish.filtered filter f) (Finish.filtered filter f') :=
  ⟨h.code, h.stdout, by simp only [Finish.filtered, h.diagnostics], h.files⟩

end RemoteBatch.Program
