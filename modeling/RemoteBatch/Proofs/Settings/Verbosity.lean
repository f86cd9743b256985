import RemoteBatch.Proofs.Settings.Readings
import RemoteBatch.Settings.Configuration

/-! One option for verbosity more. Ahead of a line it is settled at once, and what follows is read as
without it; no configuration depends on it. -/

namespace RemoteBatch.Settings

namespace Arguments

def verboseArgument : Bytes := Utf8.encode "-v"

def raised (a : Arguments) : Arguments :=
  { a with verbosity := min maxVerbosity (a.verbosity + 1) }

structure Reading.Raised (r r' : Reading) : Prop where
  arguments : r'.arguments = r.arguments.raised
  given : r'.given = .verbose :: r.given
  waiting : r'.waiting = r.waiting

lemma put_raised (a : Arguments) (flag : Flag) (raw : Bytes) :
    Agree (fun b b' => b' = b.raised) (a.put flag raw) (a.raised.put flag raw) := by
  cases flag with
  | dryRun | verbose | help | version => exact .ok rfl
  | _ => exact .of_forall_ok fun _ _ => .ok rfl

lemma Reading.record_raised {r r' : Reading} (h : Raised r r') (flag : Flag)
    (value : Option Bytes) : Agree Raised (r.record flag value) (r'.record flag value) := by
  -- The option may be repeated, so one more of it is no reason to refuse another.
  have hrepeated : flag ∈ .verbose :: r.given ∧ ¬flag.isRepeatable ↔
      flag ∈ r.given ∧ ¬flag.isRepeatable := by
    rw [List.mem_cons]
    constructor
    · rintro ⟨rfl | hmem, hr⟩
      · exact absurd rfl hr
      · exact ⟨hmem, hr⟩
    · exact fun ⟨hmem, hr⟩ => ⟨.inr hmem, hr⟩
  simp only [record, h.arguments, h.given, hrepeated]
  split
  · exact .error _
  · split
    · exact .error _
    · exact ((put_raised _ _ _).mapError _).bind fun b b' hb => .ok ⟨hb, rfl, h.waiting⟩

lemma raised_simulates : Simulates Reading.Raised where
  waiting h := h.waiting
  awaits h w := ⟨h.arguments, h.given, rfl⟩
  record h := Reading.record_raised h
  given h flag hf := by
    have hne : flag ≠ .verbose := by
      rintro rfl
      exact hf rfl
    rw [h.given, List.mem_cons, or_iff_right hne]
  conflict h := by
    rw [Reading.conflict?, h.given]
    rfl

lemma readAll_verbose (argv : List Bytes) :
    Reading.readAll {} (verboseArgument :: argv) =
      Reading.readAll { arguments := ({} : Arguments).raised, given := [.verbose] } argv := rfl

lemma parse_verbose (argv : List Bytes) (env : Environment) :
    parse (verboseArgument :: argv) env = (parse argv env).map raised := by
  have hread : Agree Reading.Raised (Reading.readAll {} argv)
      (Reading.readAll {} (verboseArgument :: argv)) := by
    have hstart : Reading.Raised {}
        { arguments := ({} : Arguments).raised, given := [.verbose] } := ⟨rfl, rfl, rfl⟩
    rw [readAll_verbose]
    exact raised_simulates.readAll hstart argv
  have hparse := raised_simulates.parse (S := fun a a' => a' = a.raised)
    (fun _ _ h => h.arguments) hread env
  obtain ⟨halt, h, h'⟩ | ⟨a, a', h, h', rfl⟩ := hparse.eq_or <;>
  · rw [h, h']
    rfl

end Arguments

lemma Configuration.ofArguments_raised (t : FileTree) (a : Arguments) :
    ofArguments t a.raised = ofArguments t a := by
  simp only [ofArguments, fileSettings, commandsOf, merge, policyOf, passwordOf, Arguments.raised]

end RemoteBatch.Settings
