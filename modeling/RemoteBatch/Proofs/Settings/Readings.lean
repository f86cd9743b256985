import RemoteBatch.Proofs.Except
import RemoteBatch.Settings.Arguments

/-! Two readings side by side. A relation that settling an option keeps holds behind the whole of a
command line, and behind the environment. -/

namespace RemoteBatch.Settings.Arguments

open Reading

/-- A relation between readings that await the same option and settle alike. They may differ in
which options they were given, as far as neither the environment nor a conflict tells. -/
structure Simulates (R : Reading → Reading → Prop) : Prop where
  waiting {r r' : Reading} (h : R r r') : r'.waiting = r.waiting
  awaits {r r' : Reading} (h : R r r') (w : Option (Flag × Option Bytes)) :
    R { r with waiting := w } { r' with waiting := w }
  record {r r' : Reading} (h : R r r') (flag : Flag) (value : Option Bytes) :
    Agree R (r.record flag value) (r'.record flag value)
  given {r r' : Reading} (h : R r r') (flag : Flag) (hf : flag.envName? ≠ none) :
    flag ∈ r'.given ↔ flag ∈ r.given
  conflict {r r' : Reading} (h : R r r') : r'.conflict? = r.conflict?

namespace Reading

lemma readAll_cons (r : Reading) (argument : Bytes) (rest : List Bytes) :
    r.readAll (argument :: rest) =
      match Token.ofArgument argument with
      | .separator =>
        match rest with
        | [] => r.settle
        | next :: _ => unexpected (Utf8.decodeLossy next)
      | .long name value => r.readLong name value >>= (readAll · rest)
      | .letters bs => r.readLetters 0 bs >>= (readAll · rest)
      | .plain => r.readPlain argument >>= (readAll · rest) :=
  readAll.eq_def r (argument :: rest)

end Reading

namespace Simulates

variable {R : Reading → Reading → Prop} (hR : Simulates R) {r r' : Reading}

include hR

lemma settle (h : R r r') : Agree R r.settle r'.settle := by
  rw [Reading.settle, Reading.settle, hR.waiting h]
  split
  · exact .ok h
  · exact hR.record (hR.awaits h none) _ _

lemma take (h : R r r') (flag : Flag) (value : Bytes) :
    Agree R (r.take flag value) (r'.take flag value) :=
  (hR.settle h).bind fun _ _ hs => hR.record hs flag _

lemma await (h : R r r') (flag : Flag) : Agree R (r.await flag) (r'.await flag) :=
  (hR.settle h).bind fun _ _ hs => .ok (hR.awaits hs _)

lemma raise (h : R r r') (flag : Flag) (long : Bool) :
    Agree R (r.raise flag long) (r'.raise flag long) := by
  refine (hR.settle h).bind fun s s' hs => ?_
  split
  · exact .error _
  · exact .error _
  · exact hR.record hs flag none

lemma readLong (h : R r r') (name : Bytes) (value : Option Bytes) :
    Agree R (r.readLong name value) (r'.readLong name value) := by
  simp only [Reading.readLong]
  split
  · exact .error _
  · split
    · exact hR.take h _ _
    · exact hR.await h _
    · exact .error _
    · exact hR.raise h _ _

lemma readLetters (h : R r r') (n : Nat) (bs : Bytes) :
    Agree R (r.readLetters n bs) (r'.readLetters n bs) := by
  induction bs generalizing n r r' with
  | nil => exact .ok h
  | cons a t ih =>
    cases n with
    | succ n => exact ih h n
    | zero =>
      rw [Reading.readLetters, Reading.readLetters]
      split
      · exact .error _
      · split
        · exact .error _
        · split
          · split
            · exact hR.await h _
            · exact hR.take h _ _
          · exact (hR.raise h _ _).bind fun _ _ hs => ih hs _

lemma readPlain (h : R r r') (argument : Bytes) :
    Agree R (r.readPlain argument) (r'.readPlain argument) := by
  rw [Reading.readPlain, Reading.readPlain, hR.waiting h]
  split
  · exact .ok (hR.awaits h _)
  · exact .error _

lemma readAll (h : R r r') (argv : List Bytes) : Agree R (r.readAll argv) (r'.readAll argv) := by
  induction argv generalizing r r' with
  | nil => exact hR.settle h
  | cons argument rest ih =>
    rw [readAll_cons, readAll_cons]
    split
    · split
      · exact hR.settle h
      · exact .error _
    · exact (hR.readLong h _ _).bind fun _ _ hs => ih hs
    · exact (hR.readLetters h _ _).bind fun _ _ hs => ih hs
    · exact (hR.readPlain h _).bind fun _ _ hs => ih hs

lemma fallBack (h : R r r') (env : Environment) (flag : Flag) :
    Agree R (fallBack env r flag) (fallBack env r' flag) := by
  cases hn : flag.envName? with
  | none =>
    simp only [Reading.fallBack, hn, Option.bind_none, ite_self]
    exact .ok h
  | some name =>
    simp only [Reading.fallBack, hR.given h flag (by simp [hn])]
    split
    · exact .ok h
    · split
      · exact hR.record h _ _
      · exact .ok h

lemma parse {S : Arguments → Arguments → Prop} (hS : ∀ r r', R r r' → S r.arguments r'.arguments)
    {argv argv' : List Bytes} (h : Agree R (Reading.readAll {} argv) (Reading.readAll {} argv'))
    (env : Environment) : Agree S (parse argv env) (parse argv' env) := by
  refine h.bind fun r r' hr => ?_
  refine (Agree.foldlM (fun _ _ flag hs => hR.fallBack hs env flag) Flag.all hr).bind
    fun s s' hs => ?_
  rw [hR.conflict hs]
  split
  · exact .error _
  · exact .ok (hS s s' hs)

end Simulates

end RemoteBatch.Settings.Arguments
