import Mathlib.Logic.Relation
import RemoteBatch.Proofs.Settings.Pairs
import RemoteBatch.Proofs.Settings.StoredPassword

/-! What a settings file says, told from its lines: for each key that is known the text on the first
line with exactly that key ahead of its first `=`. Lines that say nothing may stand anywhere. -/

namespace RemoteBatch.Settings

open Text (LineEnd written)
open KeyValue (lineOf)

namespace FileSettings

def keys : List String := ["router_ip", "router_port", "username", "password", "timeout"]

def valueAt? (key : String) (line : List Char) : Option String :=
  (line.dropPrefix? (key.toList ++ ['='])).map String.ofList

def firstValue? (lines : List (List Char)) (key : String) : Option String :=
  lines.findSome? (valueAt? key)

/-- The settings that lines stand for. The values of two keys are numbers. -/
structure Says (lines : List (List Char)) (file : FileSettings) : Prop where
  host : firstValue? lines "router_ip" = file.host
  port : (firstValue? lines "router_port").map
    (fun text => (numberOf? text).filter (· ≤ Decimal.maxUInt16)) = file.port.map some
  user : firstValue? lines "username" = file.user
  password : firstValue? lines "password" = file.password
  timeout : (firstValue? lines "timeout").map numberOf? = file.timeout.map some

def HasPlainKey (line : List Char) : Prop :=
  ∀ key value, line = lineOf (key, value) → '=' ∉ key → key.head? ≠ some '#' →
    '.' ∉ key ∧ '[' ∉ key

lemma hasPlainKey_iff {line : List Char} :
    HasPlainKey line ↔ ∀ p ∈ KeyValue.ofLine? line, '.' ∉ p.1 ∧ '[' ∉ p.1 := by
  constructor
  · intro h p hp
    obtain ⟨-, heq, hmark, hline⟩ := KeyValue.ofLine?_eq_some_iff.1 hp
    exact h p.1 p.2 hline heq hmark
  · intro h key value hline heq hmark
    rcases eq_or_ne key [] with rfl | hne
    · simp
    · exact h (key, value) (KeyValue.ofLine?_eq_some_iff.2 ⟨hne, heq, hmark, hline⟩)

instance (line : List Char) : Decidable (HasPlainKey line) := decidable_of_iff' _ hasPlainKey_iff

structure HoldsLines (content : Bytes) (ls : List (List Char × LineEnd)) : Prop where
  noMark : ¬byteOrderMark <+: content
  text : Utf8.decodeLossyChars content = written ls
  ends : ∀ l ∈ ls, l.2.Ends l.1
  plain : ∀ l ∈ ls, HasPlainKey l.1

inductive Noise (ahead : List (List Char)) : List Char → Prop
  | comment (content : List Char) : Noise ahead ('#' :: content)
  | noEquals {line : List Char} (h : '=' ∉ line) : Noise ahead line
  | noKey (value : List Char) : Noise ahead (lineOf ([], value))
  | unknown {key : List Char} (heq : '=' ∉ key) (h : ∀ known ∈ keys, key ≠ known.toList)
      (value : List Char) : Noise ahead (lineOf (key, value))
  | repeated {key value : List Char} (heq : '=' ∉ key) (h : lineOf (key, value) ∈ ahead)
      (again : List Char) : Noise ahead (lineOf (key, again))

inductive Inserts : List (List Char × LineEnd) → List (List Char × LineEnd) → Prop
  | noise {front : List (List Char × LineEnd)} {line : List Char}
      (h : Noise (front.map Prod.fst) line) (e : LineEnd) (back : List (List Char × LineEnd)) :
      Inserts (front ++ back) (front ++ (line, e) :: back)

variable {key : String} {line : List Char} {lines : List (List Char)}
  {ls ls' : List (List Char × LineEnd)} {content content' : Bytes}

lemma valueAt?_eq_some_iff {value : String} :
    valueAt? key line = some value ↔ line = lineOf (key.toList, value.toList) := by
  simp only [valueAt?, Option.map_eq_some_iff, List.dropPrefix?_eq_some_iff, beq_iff_eq]
  constructor
  · rintro ⟨rest, ⟨front, rfl, rfl⟩, rfl⟩
    simp [lineOf]
  · rintro rfl
    exact ⟨value.toList, ⟨_, by simp [lineOf], rfl⟩, by simp⟩

lemma valueAt?_lineOf (key : String) (value : List Char) :
    valueAt? key (lineOf (key.toList, value)) = some (String.ofList value) :=
  valueAt?_eq_some_iff.2 (by rw [String.toList_ofList])

lemma form_of_mem_keys (hkey : key ∈ keys) :
    key.toList ≠ [] ∧ '=' ∉ key.toList ∧ key.toList.head? ≠ some '#' := by
  have hkeys : ∀ key ∈ keys, key.toList ≠ [] ∧ '=' ∉ key.toList ∧ key.toList.head? ≠ some '#' := by
    decide +kernel
  exact hkeys key hkey

lemma ofLine?_of_key (hkey : key ∈ keys) (value : List Char) :
    KeyValue.ofLine? (lineOf (key.toList, value)) = some (key.toList, value) := by
  obtain ⟨hne, heq, hmark⟩ := form_of_mem_keys hkey
  exact KeyValue.ofLine?_eq_some_iff.2 ⟨hne, heq, hmark, rfl⟩

lemma first?_filterMap (hkey : key ∈ keys) (lines : List (List Char)) :
    KeyValue.first? (lines.filterMap KeyValue.ofLine?) key = firstValue? lines key := by
  induction lines with
  | nil => rfl
  | cons line lines ih =>
    rw [firstValue?, List.findSome?_cons]
    cases hv : valueAt? key line with
    | some value =>
      rw [valueAt?_eq_some_iff] at hv
      rw [hv, List.filterMap_cons, ofLine?_of_key hkey]
      simp [KeyValue.first?]
    | none =>
      rw [List.filterMap_cons]
      cases hp : KeyValue.ofLine? line with
      | none => exact ih
      | some p =>
        -- A line with this key would have had a value.
        have hne : p.1 ≠ key.toList := by
          intro hk
          obtain ⟨-, -, -, hline⟩ := KeyValue.ofLine?_eq_some_iff.1 hp
          rw [hline, hk, valueAt?_lineOf] at hv
          cases hv
        rw [KeyValue.first?, List.find?_cons_of_neg (by simpa using hne)]
        exact ih

lemma flat_of_plain (hends : ∀ l ∈ ls, l.2.Ends l.1) (hplain : ∀ l ∈ ls, HasPlainKey l.1) :
    KeyValue.Flat (KeyValue.ofText (written ls)) := by
  intro p hp
  rw [KeyValue.ofText_written hends, List.mem_filterMap] at hp
  obtain ⟨line, hl, hp⟩ := hp
  obtain ⟨l, hmem, rfl⟩ := List.mem_map.1 hl
  obtain ⟨hdot, hbracket⟩ := hasPlainKey_iff.1 (hplain l hmem) p hp
  rw [KeyValue.target_of_notMem hdot hbracket]

lemma ofText_eq_ok_iff_lines (hends : ∀ l ∈ ls, l.2.Ends l.1)
    (hplain : ∀ l ∈ ls, HasPlainKey l.1) {origin : String} {file : FileSettings} :
    ofText origin (written ls) = .ok file ↔ Says (ls.map Prod.fst) file := by
  have hvalue {key : String} (hkey : key ∈ keys) :
      KeyValue.first? (KeyValue.ofText (written ls)) key = firstValue? (ls.map Prod.fst) key := by
    rw [KeyValue.ofText_written hends, first?_filterMap hkey]
  rw [ofText_eq_ok_iff (flat_of_plain hends hplain)]
  constructor
  · rintro ⟨hhost, hport, huser, hpassword, htimeout⟩
    rw [hvalue (by decide)] at hhost hport huser hpassword htimeout
    exact ⟨hhost, hport, huser, hpassword, htimeout⟩
  · rintro ⟨hhost, hport, huser, hpassword, htimeout⟩
    rw [← hvalue (by decide)] at hhost hport huser hpassword htimeout
    exact ⟨hhost, hport, huser, hpassword, htimeout⟩

lemma valueAt?_eq_none (h : ∀ value, line ≠ lineOf (key.toList, value)) :
    valueAt? key line = none := by
  rw [Option.eq_none_iff_forall_ne_some]
  intro value hv
  exact h _ (valueAt?_eq_some_iff.1 hv)

lemma firstValue?_insert {front : List (List Char)} (back : List (List Char))
    (h : valueAt? key line = none ∨ (firstValue? front key).isSome) :
    firstValue? (front ++ line :: back) key = firstValue? (front ++ back) key := by
  simp only [firstValue?, List.findSome?_append, List.findSome?_cons] at h ⊢
  rcases h with h | h
  · rw [h]
  · obtain ⟨value, hv⟩ := Option.isSome_iff_exists.1 h
    rw [hv]
    rfl

lemma firstValue?_noise (hkey : key ∈ keys) {front : List (List Char)} (h : Noise front line)
    (back : List (List Char)) :
    firstValue? (front ++ line :: back) key = firstValue? (front ++ back) key := by
  obtain ⟨hne, heq, hmark⟩ := form_of_mem_keys hkey
  apply firstValue?_insert
  cases h with
  | comment content =>
    refine .inl (valueAt?_eq_none fun value hl => hmark ?_)
    have hhead := congrArg List.head? hl
    rw [lineOf, List.head?_append_of_ne_nil _ hne] at hhead
    exact hhead.symm
  | noEquals h => exact .inl (valueAt?_eq_none fun value hl => h (by simp [hl, lineOf]))
  | noKey value =>
    exact .inl (valueAt?_eq_none fun _ hl => hne (KeyValue.lineOf_inj (by simp) heq hl).symm)
  | unknown heq' h value =>
    exact .inl (valueAt?_eq_none fun _ hl => h key hkey (KeyValue.lineOf_inj heq' heq hl))
  | @repeated key' value heq' h again =>
    by_cases hk : key' = key.toList
    · subst hk
      refine .inr (List.findSome?_isSome_iff.2 ⟨_, h, ?_⟩)
      rw [valueAt?_lineOf]
      rfl
    · exact .inl (valueAt?_eq_none fun _ hl => hk (KeyValue.lineOf_inj heq' heq hl))

lemma firstValue?_of_inserts (h : Relation.ReflTransGen Inserts ls ls') (hkey : key ∈ keys) :
    firstValue? (ls'.map Prod.fst) key = firstValue? (ls.map Prod.fst) key := by
  induction h with
  | refl => rfl
  | tail _ hlast ih =>
    rw [← ih]
    obtain ⟨hnoise, e, back⟩ := hlast
    simpa using firstValue?_noise hkey hnoise (back.map Prod.fst)

lemma ofText_congr {origin : String} {text text' : List Char}
    (h : ∀ key ∈ keys,
      KeyValue.find (KeyValue.ofText text') key = KeyValue.find (KeyValue.ofText text) key) :
    ofText origin text' = ofText origin text := by
  simp only [ofText, textAt, portAt, numberAt, h "router_ip" (by decide),
    h "router_port" (by decide), h "username" (by decide), h "password" (by decide),
    h "timeout" (by decide)]

lemma ofText_of_inserts (h : Relation.ReflTransGen Inserts ls ls') (hc : HoldsLines content ls)
    (hc' : HoldsLines content' ls') (origin : String) :
    ofText origin (written ls') = ofText origin (written ls) := by
  refine ofText_congr fun key hkey => ?_
  rw [KeyValue.find_of_flat (flat_of_plain hc.ends hc.plain),
    KeyValue.find_of_flat (flat_of_plain hc'.ends hc'.plain), KeyValue.ofText_written hc.ends,
    KeyValue.ofText_written hc'.ends, first?_filterMap hkey, first?_filterMap hkey,
    firstValue?_of_inserts h hkey]

lemma HoldsLines.decode_eq (h : HoldsLines content ls) : decode content = written ls := by
  have hmark : byteOrderMark.isPrefixOf content = false := by
    rw [Bool.eq_false_iff, ne_eq, List.isPrefixOf_iff_prefix]
    exact h.noMark
  rw [decode, hmark, ← h.text]
  rfl

lemma load_of_holds {t : FileTree} {p path : Path}
    (hpath : locate t (Utf8.decodeLossy p) = .ok path) (hread : t.read path = .ok content)
    (h : HoldsLines content ls) : load t p = ofText (origin t path) (written ls) := by
  simp only [load, hpath, bind, Except.bind, hread, Except.mapError, h.decode_eq]

lemma load_rewritten {t : FileTree} {p path : Path} {place : Place}
    (hpath : locate t (Utf8.decodeLossy p) = .ok path) (hl : t.locate path = .ok place)
    (hread : t.read path = .ok content) (h : HoldsLines content' ls') :
    load (t.set place (.file content')) p = ofText (origin t path) (written ls') := by
  obtain ⟨hn, hslash⟩ := node?_of_read hl hread
  have halike := FileTree.AlikeBut.of_file hn content'
  have hne : place ≠ [] := FileTree.ne_nil_of_node?_ne (by rw [hn]; simp)
  have hread' : (t.set place (.file content')).read path = .ok content' := by
    rw [read_of_locate ((halike.locate_eq path).trans hl) (t.node?_set_self _ hne), if_neg hslash]
  rw [load_of_holds ((locate_eq halike _).trans hpath) hread' h, origin_eq halike]

/-- What is written as pairs, one on each line, is read as them. Of a file in which no key is a path
each known key has the text on the first line with exactly that key ahead of its first `=`, and the
file is loaded just when the texts of the two numbers are numbers; lines that say nothing, or say
again what a line ahead of them says, change neither the settings nor whether there are any. -/
theorem load_of_lines :
    (∀ ps : List (KeyValue × LineEnd), (∀ p ∈ ps, p.1.Writable) →
      KeyValue.ofText (written (ps.map fun p => (lineOf p.1, p.2))) = ps.map Prod.fst) ∧
    ∀ (t : FileTree) (p path : Path) (place : Place) (content : Bytes)
      (ls : List (List Char × LineEnd)),
      locate t (Utf8.decodeLossy p) = .ok path → t.locate path = .ok place →
      t.read path = .ok content → HoldsLines content ls →
      (∀ file, load t p = .ok file ↔ Says (ls.map Prod.fst) file) ∧
      ∀ content' ls', Relation.ReflTransGen Inserts ls ls' → HoldsLines content' ls' →
        load (t.set place (.file content')) p = load t p := by
  refine ⟨fun ps hps => KeyValue.ofText_pairs hps,
    fun t p path place content ls hpath hl hread hc => ?_⟩
  have hload := load_of_holds hpath hread hc
  refine ⟨fun file => ?_, fun content' ls' hinserts hc' => ?_⟩
  · rw [hload]
    exact ofText_eq_ok_iff_lines hc.ends hc.plain
  · rw [hload, load_rewritten hpath hl hread hc']
    exact ofText_of_inserts hinserts hc hc' _

theorem load_of_lines_padded :
    let first : List Char × LineEnd := ("router_ip=10.0.0.5".toList, .carriageReturn)
    let second : List Char × LineEnd := ("router_port=2222".toList, .lineFeed)
    let comment : List Char × LineEnd := ("# since v1.2 = old".toList, .lineFeed)
    let unknown : List Char × LineEnd := ("Timeout=never".toList, .carriageReturn)
    let again : List Char × LineEnd := ("router_port=ssh".toList, .lineFeed)
    let ls := [first, second]
    let ls' := [comment, first, unknown, second, again]
    let content := Utf8.encodeChars (written ls)
    let content' := Utf8.encodeChars (written ls')
    let name := Utf8.encode "conf"
    let t : FileTree := { nodes := [([name], .file content)] }
    load t name = .ok { host := some "10.0.0.5", port := some 2222 } ∧
      load (t.set [name] (.file content')) name = load t name ∧
      KeyValue.ofText (written [(lineOf ("a".toList, "b=c ".toList), .lineFeed)]) =
        [("a".toList, "b=c ".toList)] := by
  intro first second comment unknown again ls ls' content content' name t
  have hc : HoldsLines content ls :=
    ⟨by decide +kernel, by decide +kernel, by decide +kernel, by decide +kernel⟩
  have hc' : HoldsLines content' ls' :=
    ⟨by decide +kernel, by decide +kernel, by decide +kernel, by decide +kernel⟩
  have hinserts : Relation.ReflTransGen Inserts ls ls' := by
    have hcomment : Inserts ls [comment, first, second] :=
      @Inserts.noise [] _ (.comment " since v1.2 = old".toList) .lineFeed ls
    have hunknown : Inserts [comment, first, second] [comment, first, unknown, second] :=
      @Inserts.noise [comment, first] _
        (@Noise.unknown _ "Timeout".toList (by decide) (by decide) "never".toList) .carriageReturn
        [second]
    have hagain : Inserts [comment, first, unknown, second] ls' :=
      @Inserts.noise [comment, first, unknown, second] _
        (@Noise.repeated _ "router_port".toList "2222".toList (by decide) (by decide) "ssh".toList)
        .lineFeed []
    exact .tail (.tail (.single hcomment) hunknown) hagain
  have hpath : locate t (Utf8.decodeLossy name) = .ok (Utf8.encode "/conf") := by decide +kernel
  obtain ⟨hpairs, hfile⟩ := load_of_lines
  obtain ⟨hsettings, hnoise⟩ := hfile t name _ [name] content ls hpath (by decide +kernel)
    (by decide +kernel) hc
  refine ⟨(hsettings _).2 ⟨by decide +kernel, by decide +kernel, by decide +kernel, by decide +kernel,
    by decide +kernel⟩, hnoise content' ls' hinserts hc', ?_⟩
  have hwritable : KeyValue.Writable ("a".toList, "b=c ".toList) :=
    ⟨by decide, by decide, by decide, by decide, by decide, by decide⟩
  exact hpairs [(("a".toList, "b=c ".toList), .lineFeed)] (by simpa using hwritable)

end FileSettings

end RemoteBatch.Settings
