import RemoteBatch.Proofs.Settings.Options
import RemoteBatch.Proofs.Settings.WellFormed

/-! Precedence of settings. Each setting has sources of its own, the first of which that says
something decides: the option on the line, its variable, and a key of the settings file. -/

namespace RemoteBatch.Settings

open Arguments (Spells readText readPort readSeconds)

def KeyValue.first? (pairs : List KeyValue) (key : String) : Option String :=
  (pairs.find? (·.1 = key.toList)).map fun pair => String.ofList pair.2

def FileSettings.Holds (t : FileTree) (pairs : List KeyValue) : Option Path → Prop
  | none => pairs = []
  | some name => ∃ path content, locate t (Utf8.decodeLossy name) = .ok path ∧
      t.read path = .ok content ∧ pairs = KeyValue.ofText (decode content)

structure Sources where
  given : Given
  environment : Environment
  pairs : List KeyValue

namespace Sources

def option (s : Sources) (flag : Flag) : Option Bytes := Arguments.option s.given s.environment flag

structure Of (argv : List Bytes) (env : Environment) (t : FileTree) (s : Sources) : Prop where
  spelled : Spells argv s.given
  environment : s.environment = env
  pairs : FileSettings.Holds t s.pairs (s.option .config)

end Sources

inductive Setting
  | host
  | port
  | user
  | password
  | timeout
  | commandTimeout
  deriving DecidableEq, Repr

namespace Setting

abbrev Value : Setting → Type
  | host | user | password => String
  | port => Nat
  | timeout => Duration
  | commandTimeout => Option Duration

def flag : Setting → Flag
  | host => .host
  | port => .port
  | user => .user
  | password => .password
  | timeout => .timeout
  | commandTimeout => .commandTimeout

def key? : Setting → Option String
  | host => some "router_ip"
  | port => some "router_port"
  | user => some "username"
  | password => some "password"
  | timeout => some "timeout"
  | commandTimeout => none

def limit (seconds : Nat) : Option Duration :=
  if seconds = 0 then none else some (.ofSeconds seconds)

def read : (x : Setting) → Bytes → Except UsageError x.Value
  | host, raw | user, raw | password, raw => readText raw
  | port, raw => readPort .port raw
  | timeout, raw => (readSeconds .timeout raw).map .ofSeconds
  | commandTimeout, raw => (readSeconds .commandTimeout raw).map limit

def readText? : (x : Setting) → String → Option x.Value
  | host, text | user, text | password, text => some text
  | port, text => (FileSettings.numberOf? text).filter (· ≤ Decimal.maxUInt16)
  | timeout, text => (FileSettings.numberOf? text).map .ofSeconds
  | commandTimeout, _ => none

def standard : (x : Setting) → x.Value
  | host => "192.168.1.2"
  | port => (22 : Nat)
  | user => "root"
  | password => ""
  | timeout => Duration.ofSeconds 10
  | commandTimeout => none

def value (c : Configuration) : (x : Setting) → x.Value
  | host => c.host
  | port => c.port
  | user => c.user
  | password => c.password
  | timeout => c.timeout
  | commandTimeout => c.commandTimeout

def remote (t : Remote.Target) : (x : Setting) → x.Value
  | host => t.host
  | port => t.port
  | user => t.username
  | password => t.password
  | timeout => t.connectTimeout
  | commandTimeout => t.commandTimeout

def option : Setting → Sources → Option Bytes
  | password, s => (s.option .password).filter (· ≠ [])
  | x, s => s.option x.flag

def text (x : Setting) (s : Sources) : Option String := x.key?.bind (KeyValue.first? s.pairs)

end Setting

structure Sources.AgreeBut (x : Setting) (s s' : Sources) : Prop where
  given : ∀ flag, flag ≠ x.flag → s'.given.lookup flag = s.given.lookup flag
  environment : ∀ name, some name ≠ x.flag.envName? →
    s'.environment.lookup name = s.environment.lookup name
  pairs : ∀ key, some key ≠ x.key? →
    KeyValue.first? s'.pairs key = KeyValue.first? s.pairs key

def Decides {α : Type} (read : Bytes → Except UsageError α) (readText? : String → Option α)
    (standard : α) (source : Option (Bytes ⊕ String)) (value : α) : Prop :=
  match source with
  | some (.inl raw) => read raw = .ok value
  | some (.inr text) => readText? text = some value
  | none => value = standard

section Decides

variable {α β : Type} {read : Bytes → Except UsageError α} {readText? : String → Option α}
  {standard : α} {source : Option (Bytes ⊕ String)} {value value' : α}

lemma Decides.unique (h : Decides read readText? standard source value)
    (h' : Decides read readText? standard source value') : value = value' := by
  rcases source with - | raw | text
  · exact h.trans h'.symm
  · exact Except.ok.inj (h.symm.trans h')
  · exact Option.some.inj (h.symm.trans h')

lemma Decides.map (f : α → β) (h : Decides read readText? standard source value) :
    Decides (fun raw => (read raw).map f) (fun text => (readText? text).map f) (f standard) source
      (f value) := by
  rcases source with - | raw | text
  · exact congrArg f h
  · exact congrArg (Except.map f) h
  · exact congrArg (Option.map f) h

end Decides

/-! ### Settings do not share sources -/

namespace Setting

variable {x y : Setting} {s s' : Sources}

end Setting

/-! ### The settings file -/

namespace KeyValue

lemma find_cases (pairs : List KeyValue) (name : String) :
    (∃ shape, find pairs name = .structured shape) ∨
    (find pairs name = .absent ∧ first? pairs name = none) ∨
    ∃ text, find pairs name = .text text ∧ first? pairs name = some text := by
  simp only [find, first?]
  split
  · exact .inl ⟨_, rfl⟩
  · cases pairs.find? (·.1 = name.toList) with
    | some pair => exact .inr (.inr ⟨_, rfl, rfl⟩)
    | none => exact .inr (.inl ⟨rfl, rfl⟩)

end KeyValue

namespace FileSettings

variable {pairs : List KeyValue} {key origin : String}

lemma textAt_eq_ok {v : Option String} (h : textAt pairs key = .ok v) :
    KeyValue.first? pairs key = v := by
  rw [textAt] at h
  rcases KeyValue.find_cases pairs key with ⟨shape, hf⟩ | ⟨hf, hn⟩ | ⟨text, hf, hn⟩ <;>
    rw [hf] at h <;> cases h
  · exact hn
  · exact hn

lemma numberAt_eq_ok {v : Option Nat} (h : numberAt origin pairs key = .ok v) :
    (KeyValue.first? pairs key).map numberOf? = v.map some := by
  rw [numberAt] at h
  rcases KeyValue.find_cases pairs key with ⟨shape, hf⟩ | ⟨hf, hn⟩ | ⟨text, hf, hn⟩ <;>
    rw [hf] at h
  · cases h
  · cases h
    rw [hn]
    rfl
  · rw [hn, Option.map_some]
    simp only at h
    split at h
    next n hnum =>
      cases h
      exact congrArg some hnum
    next => cases h

lemma portAt_eq_ok {v : Option Nat} (h : portAt origin pairs key = .ok v) :
    (KeyValue.first? pairs key).map (fun text => (numberOf? text).filter (· ≤ Decimal.maxUInt16)) =
      v.map some := by
  obtain ⟨number, hn, h⟩ := bind_eq_ok.1 h
  have hnumber := numberAt_eq_ok hn
  cases number with
  | none =>
    cases h
    rw [Option.map_eq_none_iff.1 hnumber]
    rfl
  | some n =>
    obtain ⟨text, ht, hv⟩ := Option.map_eq_some_iff.1 hnumber
    change (if n ≤ Decimal.maxUInt16 then Except.ok (some n) else .error (Fault.tooLarge n key)) =
      .ok v at h
    split at h
    next hle =>
      cases h
      simp [ht, hv, Option.filter, hle]
    next => cases h

structure FoundIn (pairs : List KeyValue) (file : FileSettings) : Prop where
  host : KeyValue.first? pairs "router_ip" = file.host
  port : (KeyValue.first? pairs "router_port").map
    (fun text => (numberOf? text).filter (· ≤ Decimal.maxUInt16)) = file.port.map some
  user : KeyValue.first? pairs "username" = file.user
  password : KeyValue.first? pairs "password" = file.password
  timeout : (KeyValue.first? pairs "timeout").map numberOf? = file.timeout.map some

lemma foundIn_of_ofText {text : List Char} {file : FileSettings}
    (h : ofText origin text = .ok file) : FoundIn (KeyValue.ofText text) file := by
  obtain ⟨host, hhost, h⟩ := bind_eq_ok.1 h
  obtain ⟨port, hport, h⟩ := bind_eq_ok.1 h
  obtain ⟨user, huser, h⟩ := bind_eq_ok.1 h
  obtain ⟨password, hpassword, h⟩ := bind_eq_ok.1 h
  obtain ⟨timeout, htimeout, h⟩ := bind_eq_ok.1 h
  cases h
  exact ⟨textAt_eq_ok hhost, portAt_eq_ok hport, textAt_eq_ok huser, textAt_eq_ok hpassword,
    numberAt_eq_ok htimeout⟩

end FileSettings

namespace Configuration

variable {t : FileTree} {a : Arguments} {file : FileSettings}

lemma foundIn_of_holds (h : fileSettings t a = .ok file) {pairs : List KeyValue}
    (hpairs : FileSettings.Holds t pairs a.config) : FileSettings.FoundIn pairs file := by
  rw [fileSettings] at h
  cases hc : a.config with
  | none =>
    rw [hc] at h hpairs
    cases h
    cases hpairs
    exact ⟨rfl, rfl, rfl, rfl, rfl⟩
  | some name =>
    rw [hc] at h hpairs
    obtain ⟨path, content, hpath, hcontent, rfl⟩ := hpairs
    obtain ⟨path', hpath', h⟩ := bind_eq_ok.1 (mapError_eq_ok.1 h)
    obtain ⟨content', hcontent', h⟩ := bind_eq_ok.1 h
    cases hpath.symm.trans hpath'
    cases hcontent.symm.trans (mapError_eq_ok.1 hcontent')
    exact FileSettings.foundIn_of_ofText h

end Configuration

/-! ### Every setting -/

section Sources

variable {argv : List Bytes} {env : Environment} {t : FileTree} {a : Arguments} {c : Configuration}
  {s : Sources}

lemma config_of_parse {given : Given} (hs : Spells argv given)
    (ha : Arguments.parse argv env = .ok a) :
    a.config = Arguments.option given env .config := by
  have hconfig := Arguments.Place.config.field_of_parse hs ha
  change (Arguments.option given env .config).map (Arguments.readPath .config) =
    a.config.map .ok at hconfig
  cases hc : a.config with
  | none =>
    rw [hc] at hconfig
    exact (Option.map_eq_none_iff.1 hconfig).symm
  | some path =>
    rw [hc] at hconfig
    obtain ⟨raw, ho, hr⟩ := Option.map_eq_some_iff.1 hconfig
    rw [Arguments.eq_of_readPath hr, ho]

lemma filter_password {option : Option Bytes} {password : Option String}
    (h : option.map readText = password.map .ok) :
    (option.filter (· ≠ [])).map readText = (password.filter (· ≠ "")).map .ok := by
  cases password with
  | none =>
    rw [Option.map_eq_none_iff.1 h]
    rfl
  | some p =>
    obtain ⟨raw, rfl, hr⟩ := Option.map_eq_some_iff.1 h
    have hempty : raw = [] ↔ p = "" := by
      rw [← Arguments.encode_of_readText hr]
      constructor
      · exact fun h => Utf8.encode_inj h
      · rintro rfl
        rfl
    by_cases hp : p = ""
    · simp [Option.filter, hempty, hp]
    · simp [Option.filter, hempty, hp, hr]

end Sources

end RemoteBatch.Settings
