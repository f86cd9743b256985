import RemoteBatch.Proofs.Settings.Readings
import RemoteBatch.Proofs.Text.Utf8
import RemoteBatch.Settings.Help

/-! A password given as an option or in the environment. Once it is read nothing looks at it again:
the reading goes on, and fails, alike for any other. -/

namespace RemoteBatch.Settings

namespace Arguments

variable {p p' : String}

def Swapped (p p' : String) (a a' : Arguments) : Prop :=
  a' = a ∨ a.password = some p ∧ a' = { a with password := some p' }

structure Reading.Swapped (p p' : String) (r r' : Reading) : Prop where
  given : .password ∈ r.given
  was : r.arguments.password = some p
  eq : r' = { r with arguments := { r.arguments with password := some p' } }

lemma put_swapped {a : Arguments} (h : a.password = some p) {flag : Flag} (hf : flag ≠ .password)
    (raw : Bytes) :
    Agree (fun b b' => b.password = some p ∧ b' = { b with password := some p' })
      (a.put flag raw) ({ a with password := some p' }.put flag raw) := by
  cases flag with
  | password => exact absurd rfl hf
  | dryRun | verbose | help | version => exact .ok ⟨h, rfl⟩
  | _ => exact .of_forall_ok fun _ _ => .ok ⟨h, rfl⟩

namespace Reading

variable {r r' : Reading}

lemma record_swapped (h : Swapped p p' r r') (flag : Flag) (value : Option Bytes) :
    Agree (Swapped p p') (r.record flag value) (r'.record flag value) := by
  obtain ⟨hgiven, hwas, rfl⟩ := h
  simp only [record]
  split
  · exact .error _
  · split
    · exact .error _
    -- A second password is refused in both, so this is some other option.
    · next hrepeated =>
      have hf : flag ≠ .password := by
        rintro rfl
        exact hrepeated ⟨hgiven, by decide⟩
      exact ((put_swapped hwas hf _).mapError _).bind fun b b' hb =>
        .ok ⟨List.mem_append_left _ hgiven, hb.1, by rw [hb.2]⟩

end Reading

lemma swapped_simulates (p p' : String) : Simulates (Reading.Swapped p p') where
  waiting h := by rw [h.eq]
  awaits h w := ⟨h.given, h.was, by rw [h.eq]⟩
  record h := Reading.record_swapped h
  given h _ _ := by rw [h.eq]
  conflict h := by rw [h.eq]; rfl

namespace Reading

lemma record_password (r : Reading) (p p' : String) :
    Agree (Swapped p p') (r.record .password (some (Utf8.encode p)))
      (r.record .password (some (Utf8.encode p'))) := by
  have hput (p : String) : r.arguments.put .password (Utf8.encode p) =
      .ok { r.arguments with password := some p } := by
    simp only [put, readText, Utf8.decode?_encode]
    rfl
  have hrecord (p : String) : r.record .password (some (Utf8.encode p)) =
      if .password ∈ r.given then .error (.usage (.repeated .password))
      else .ok { r with
        arguments := { r.arguments with password := some p }
        given := r.given ++ [.password] } := by
    rw [record, if_neg (by simp), Option.getD_some, hput]
    simp [Flag.isRepeatable, Except.mapError, bind, Except.bind]
  rw [hrecord, hrecord]
  split
  · exact .error _
  · exact .ok ⟨by simp, rfl, rfl⟩

def Alike (p p' : String) (r r' : Reading) : Prop := r' = r ∨ Swapped p p' r r'

lemma Alike.refl (p p' : String) (r : Reading) : Alike p p' r r := .inl rfl

lemma ofArgument_password (p : String) : Token.ofArgument (Utf8.encode ("--password=" ++ p)) =
    .long (Utf8.encode "password") (some (Utf8.encode p)) := by
  rw [Utf8.encode_append]
  rfl

lemma readLong_password (r : Reading) (p p' : String) :
    Agree (Swapped p p') (r.readLong (Utf8.encode "password") (some (Utf8.encode p)))
      (r.readLong (Utf8.encode "password") (some (Utf8.encode p'))) := by
  have hf : Flag.ofLong? "password" = some .password := by decide
  simp only [readLong, Utf8.decode?_encode, Option.bind_some, hf]
  exact .of_forall_ok fun s _ => record_password s p p'

lemma readAll_password {before : List Bytes} (hb : .separator ∉ before.map Token.ofArgument)
    (after : List Bytes) (r : Reading) (p p' : String) :
    Agree (Swapped p p') (r.readAll (before ++ Utf8.encode ("--password=" ++ p) :: after))
      (r.readAll (before ++ Utf8.encode ("--password=" ++ p') :: after)) := by
  induction before generalizing r with
  | nil =>
    rw [List.nil_append, List.nil_append, readAll_cons, readAll_cons, ofArgument_password,
      ofArgument_password]
    exact (readLong_password r p p').bind fun _ _ hs => (swapped_simulates p p').readAll hs after
  | cons argument before ih =>
    rw [List.map_cons, List.mem_cons, not_or] at hb
    rw [List.cons_append, List.cons_append, readAll_cons, readAll_cons]
    split
    next hs => exact absurd hs.symm hb.1
    · exact .of_forall_ok fun s _ => ih hb.2 s
    · exact .of_forall_ok fun s _ => ih hb.2 s
    · exact .of_forall_ok fun s _ => ih hb.2 s

lemma envName?_ne {flag : Flag} (h : flag ≠ .password) :
    flag.envName? ≠ some "SSH_RUNNER_PASSWORD" := by
  cases flag <;> first | exact absurd rfl h | decide

lemma fallBack_eq_of_ne {env env' : Environment}
    (henv : ∀ name, name ≠ "SSH_RUNNER_PASSWORD" → env'.lookup name = env.lookup name)
    {flag : Flag} (h : flag ≠ .password) (r : Reading) :
    fallBack env' r flag = fallBack env r flag := by
  have hl : flag.envName?.bind (List.lookup · env') = flag.envName?.bind (List.lookup · env) := by
    have hne := envName?_ne h
    cases hn : flag.envName? with
    | none => rfl
    | some name => exact henv name fun he => hne (by rw [hn, he])
  simp only [fallBack, hl]

end Reading

end Arguments

structure Environment.Swapped (p p' : String) (env env' : Environment) : Prop where
  was : env.lookup "SSH_RUNNER_PASSWORD" = some (Utf8.encode p)
  is : env'.lookup "SSH_RUNNER_PASSWORD" = some (Utf8.encode p')
  elsewhere : ∀ name, name ≠ "SSH_RUNNER_PASSWORD" → env'.lookup name = env.lookup name

namespace Arguments

variable {p p' : String}

lemma Reading.fallBack_alike {env env' : Environment} (henv : env' = env ∨ env.Swapped p p' env')
    {r r' : Reading} (h : Alike p p' r r') (flag : Flag) :
    Agree (Alike p p') (fallBack env r flag) (fallBack env' r' flag) := by
  by_cases hf : flag = .password
  · subst hf
    rcases h with rfl | h
    · rcases henv with rfl | henv
      · exact .refl (.refl p p') _
      · simp only [fallBack, Flag.envName?, Option.bind_some, henv.was, henv.is]
        split
        · exact .ok (.refl p p' _)
        · exact (record_password _ p p').mono fun _ _ => .inr
    · have hgiven' : .password ∈ r'.given := by
        rw [h.eq]
        exact h.given
      rw [fallBack, fallBack, if_pos h.given, if_pos hgiven']
      exact .ok (.inr h)
  · have hsame : fallBack env' r' flag = fallBack env r' flag := by
      rcases henv with rfl | henv
      · rfl
      · exact fallBack_eq_of_ne henv.elsewhere hf r'
    rw [hsame]
    rcases h with rfl | h
    · exact .refl (.refl p p') _
    · exact ((swapped_simulates p p').fallBack h env flag).mono fun _ _ => .inr

lemma parse_alike {env env' : Environment} (henv : env' = env ∨ env.Swapped p p' env')
    {argv argv' : List Bytes}
    (h : Agree (Reading.Alike p p') (Reading.readAll {} argv) (Reading.readAll {} argv')) :
    Agree (Swapped p p') (parse argv env) (parse argv' env') := by
  refine h.bind fun r r' hr => ?_
  refine (Agree.foldlM (fun _ _ flag hs => Reading.fallBack_alike henv hs flag) Flag.all hr).bind
    fun s s' hs => ?_
  have hconflict : s'.conflict? = s.conflict? := by
    rcases hs with rfl | hs
    · rfl
    · rw [hs.eq]
      rfl
  rw [hconflict]
  split
  · exact .error _
  · rcases hs with rfl | hs
    · exact .ok (.inl rfl)
    · exact .ok (.inr ⟨hs.was, by rw [hs.eq]⟩)

lemma parse_option {before : List Bytes} (hb : .separator ∉ before.map Token.ofArgument)
    (after : List Bytes) (env : Environment) (p p' : String) :
    Agree (Swapped p p') (parse (before ++ Utf8.encode ("--password=" ++ p) :: after) env)
      (parse (before ++ Utf8.encode ("--password=" ++ p') :: after) env) :=
  parse_alike (.inl rfl) ((Reading.readAll_password hb after {} p p').mono fun _ _ => .inr)

lemma parse_variable (argv : List Bytes) {env env' : Environment} (h : env.Swapped p p' env') :
    Agree (Swapped p p') (parse argv env) (parse argv env') :=
  parse_alike (.inr h) (.refl (.refl p p') _)

end Arguments

lemma Help.text_variable {p p' : String} {env env' : Environment} (h : env.Swapped p p' env')
    (m : Text.Medium) (long : Bool) : Help.text m env' long = Help.text m env long := by
  have hnote (flag : Flag) : variableNote env' flag = variableNote env flag := by
    by_cases hf : flag = .password
    · subst hf
      rfl
    · simp only [variableNote, if_neg hf]
      split
      · rfl
      · next name hn =>
        rw [h.elsewhere name fun he => Arguments.Reading.envName?_ne hf (he ▸ hn)]
  have hlong : longEntry env' = longEntry env := by
    funext flag
    simp only [longEntry, hnote]
  have hshort : shortEntry env' = shortEntry env := by
    funext flag
    simp only [shortEntry, hnote]
  simp only [Help.text, hlong, hshort]

end RemoteBatch.Settings
