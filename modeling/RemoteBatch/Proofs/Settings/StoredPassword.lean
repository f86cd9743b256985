import RemoteBatch.Proofs.Settings.GivenPassword
import RemoteBatch.Proofs.Settings.Sources
import RemoteBatch.Proofs.Text.Lines

/-! A password in a settings file. Of the whole file its line is the only thing that depends on it,
and of the settings the password. -/

namespace RemoteBatch.Settings

structure OneLine (s : String) : Prop where
  nonempty : s ≠ ""
  notMem : '\n' ∉ s.toList
  getLast? : s.toList.getLast? ≠ some '\r'

def passwordLine (p : String) : Bytes := Utf8.encode ("password=" ++ p)

namespace KeyValue

lemma ofLine?_password (p : String) :
    ofLine? ("password=" ++ p).toList = some ("password".toList, p.toList) := by
  have h : ("password=" ++ p).toList = 'p' :: 'a' :: 's' :: 's' :: 'w' :: 'o' :: 'r' :: 'd' :: '=' ::
      p.toList := by simp
  rw [h]
  rfl

lemma ofText_password {cs ds : List Char} (hcs : cs = [] ∨ cs.getLast? = some '\n')
    (hds : Text.BehindLine ds) :
    ∃ later, ∀ p, OneLine p → ofText (cs ++ (("password=" ++ p).toList ++ ds)) =
      ofText cs ++ ("password".toList, p.toList) :: later := by
  obtain ⟨later, hl⟩ := Text.lines_of_behindLine hds
  refine ⟨later.filterMap ofLine?, fun p hp => ?_⟩
  have hline := hl ("password=" ++ p).toList (by simp) (by simp [hp.notMem]) ?_
  · rw [ofText, Text.lines_append hcs, hline, List.filterMap_append, List.filterMap_cons,
      ofLine?_password]
    rfl
  · have hr := hp.getLast?
    rw [String.toList_append, List.getLast?_append]
    cases hc : p.toList.getLast? with
    | none => exact absurd (by simpa using hc) hp.nonempty
    | some c => rwa [hc] at hr

section Find

variable (pairs later : List KeyValue) {key : List Char} {name : String}

lemma find?_structured (hkey : (target key).2 = .scalar) (v : List Char) :
    (pairs ++ (key, v) :: later).find?
        (fun p => (target p.1).1 = name.toList ∧ (target p.1).2 ≠ .scalar) =
      (pairs ++ later).find?
        fun p => (target p.1).1 = name.toList ∧ (target p.1).2 ≠ .scalar := by
  simp [List.find?_append, hkey]

lemma find_of_ne (hkey : (target key).2 = .scalar) (hne : key ≠ name.toList) (v : List Char) :
    find (pairs ++ (key, v) :: later) name = find (pairs ++ later) name := by
  have ht : (pairs ++ (key, v) :: later).find? (·.1 = name.toList) =
      (pairs ++ later).find? (·.1 = name.toList) := by
    simp [List.find?_append, hne]
  simp only [find, find?_structured pairs later hkey, ht]

lemma find_self (hkey : (target name.toList).2 = .scalar) :
    (∃ found, ∀ v, find (pairs ++ (name.toList, v) :: later) name = found) ∨
      ∀ v, find (pairs ++ (name.toList, v) :: later) name = .text (String.ofList v) := by
  simp only [find, find?_structured pairs later hkey]
  split
  · exact .inl ⟨_, fun _ => rfl⟩
  · simp only [List.find?_append]
    cases pairs.find? (·.1 = name.toList) with
    | some pair => exact .inl ⟨_, fun _ => rfl⟩
    | none => exact .inr fun v => by simp

end Find

end KeyValue

namespace FileSettings

variable {p p' : String}

def Swapped (p p' : String) (s s' : FileSettings) : Prop :=
  s' = s ∨ s.password = some p ∧ s' = { s with password := some p' }

section Pairs

variable (pairs later : List KeyValue) (v : List Char) {key : String}
  (hkey : "password".toList ≠ key.toList)

lemma target_password : (KeyValue.target "password".toList).2 = .scalar := by decide +kernel

include hkey

lemma textAt_of_ne :
    textAt (pairs ++ ("password".toList, v) :: later) key = textAt (pairs ++ later) key := by
  simp only [textAt, KeyValue.find_of_ne pairs later target_password hkey]

lemma numberAt_of_ne (origin : String) :
    numberAt origin (pairs ++ ("password".toList, v) :: later) key =
      numberAt origin (pairs ++ later) key := by
  simp only [numberAt, KeyValue.find_of_ne pairs later target_password hkey]

lemma portAt_of_ne (origin : String) :
    portAt origin (pairs ++ ("password".toList, v) :: later) key =
      portAt origin (pairs ++ later) key := by
  simp only [portAt, numberAt_of_ne pairs later v hkey]

end Pairs

lemma textAt_password (pairs later : List KeyValue) (p p' : String) :
    Agree (fun o o' => o' = o ∨ o = some p ∧ o' = some p')
      (textAt (pairs ++ ("password".toList, p.toList) :: later) "password")
      (textAt (pairs ++ ("password".toList, p'.toList) :: later) "password") := by
  rcases KeyValue.find_self pairs later target_password with ⟨found, hf⟩ | hf
  · simp only [textAt, hf]
    cases found with
    | absent => exact .ok (.inl rfl)
    | text s => exact .ok (.inl rfl)
    | structured shape => exact .error _
  · simp only [textAt, hf, String.ofList_toList]
    exact .ok (.inr ⟨rfl, rfl⟩)

lemma ofText_swapped (origin : String) {cs ds : List Char}
    (hcs : cs = [] ∨ cs.getLast? = some '\n') (hds : Text.BehindLine ds) (hp : OneLine p)
    (hp' : OneLine p') :
    Agree (Swapped p p') (ofText origin (cs ++ (("password=" ++ p).toList ++ ds)))
      (ofText origin (cs ++ (("password=" ++ p').toList ++ ds))) := by
  obtain ⟨later, hl⟩ := KeyValue.ofText_password hcs hds
  have hhost : "password".toList ≠ "router_ip".toList := by decide
  have hport : "password".toList ≠ "router_port".toList := by decide
  have huser : "password".toList ≠ "username".toList := by decide
  have htimeout : "password".toList ≠ "timeout".toList := by decide
  -- What is looked up under the other keys does not depend on the line.
  simp only [ofText, hl p hp, hl p' hp', textAt_of_ne _ _ _ hhost, portAt_of_ne _ _ _ hport,
    textAt_of_ne _ _ _ huser, numberAt_of_ne _ _ _ htimeout]
  refine .of_forall_ok fun host _ => .of_forall_ok fun port _ => .of_forall_ok fun user _ => ?_
  refine (textAt_password _ later p p').bind fun o o' ho => .of_forall_ok fun timeout _ => .ok ?_
  rcases ho with rfl | ⟨rfl, rfl⟩
  · exact .inl rfl
  · exact .inr ⟨rfl, rfl⟩

def AheadOfLine (bs : Bytes) : Prop :=
  bs = [] ∨ bs = byteOrderMark ∨ ∃ earlier, bs = earlier ++ Utf8.encode "\n"

def BehindLine (bs : Bytes) : Prop :=
  bs = [] ∨ ∃ later, bs = Utf8.encode "\n" ++ later ∨ bs = Utf8.encode "\r\n" ++ later

lemma BehindLine.decoded {bs : Bytes} (h : BehindLine bs) :
    Text.BehindLine (Utf8.decodeLossyChars bs) := by
  rcases h with rfl | ⟨later, rfl | rfl⟩
  · exact .inl rfl
  · exact .inr ⟨_, .inl (Utf8.decodeLossyChars_encode_append "\n" later)⟩
  · exact .inr ⟨_, .inr (Utf8.decodeLossyChars_encode_append "\r\n" later)⟩

lemma decode_of_head?_ne {bs : Bytes} (h : bs.head? ≠ some 0xEF) :
    decode bs = Utf8.decodeLossyChars bs := by
  have hb : byteOrderMark.isPrefixOf bs = false := by
    cases bs with
    | nil => rfl
    | cons b bs =>
      have hne : b ≠ 0xEF := by simpa using h
      simp [byteOrderMark, List.isPrefixOf, Ne.symm hne]
  simp [decode, hb]

lemma decode_mark_append (bs : Bytes) : decode (byteOrderMark ++ bs) = Utf8.decodeLossyChars bs := by
  have hb : byteOrderMark.isPrefixOf (byteOrderMark ++ bs) := by simp
  simp [decode, hb]

lemma decodeLossyChars_line_append (earlier bs : Bytes) :
    Utf8.decodeLossyChars (earlier ++ Utf8.encode "\n" ++ bs) =
      Utf8.decodeLossyChars (earlier ++ Utf8.encode "\n") ++ Utf8.decodeLossyChars bs := by
  have hn : Utf8.encode "\n" = [10] := by decide
  rw [hn, Utf8.decodeLossyChars, Utf8.scan_append_of_lt (by decide), List.map_append]
  rfl

lemma getLast?_decodeLossyChars (earlier : Bytes) :
    (Utf8.decodeLossyChars (earlier ++ Utf8.encode "\n")).getLast? = some '\n' := by
  have hn : Utf8.encode "\n" = [10] := by decide
  rw [hn, Utf8.decodeLossyChars, List.getLast?_map, Utf8.scan,
    Utf8.getLast?_scanFrom_of_lt (by decide) earlier (Nat.zero_le _)]
  rfl

lemma AheadOfLine.decoded {front : Bytes} (h : AheadOfLine front) :
    ∃ cs, (cs = [] ∨ cs.getLast? = some '\n') ∧
      ∀ bs, bs.head? ≠ some 0xEF → decode (front ++ bs) = cs ++ Utf8.decodeLossyChars bs := by
  rcases h with rfl | rfl | ⟨earlier, rfl⟩
  · exact ⟨[], .inl rfl, fun bs hbs => decode_of_head?_ne hbs⟩
  · exact ⟨[], .inl rfl, fun bs _ => decode_mark_append bs⟩
  · by_cases hb : byteOrderMark <+: earlier
    · obtain ⟨rest, rfl⟩ := hb
      refine ⟨_, .inr (getLast?_decodeLossyChars rest), fun bs _ => ?_⟩
      rw [List.append_assoc, List.append_assoc, decode_mark_append, ← List.append_assoc,
        decodeLossyChars_line_append]
    · refine ⟨_, .inr (getLast?_decodeLossyChars earlier), fun bs _ => ?_⟩
      have hb' : byteOrderMark.isPrefixOf (earlier ++ Utf8.encode "\n" ++ bs) = false := by
        -- A mark would have to end before the line feed, which is none of its bytes.
        have hn : Utf8.encode "\n" = [10] := by decide
        rw [hn]
        rcases earlier with - | ⟨a, - | ⟨b, - | ⟨c, earlier⟩⟩⟩ <;>
          simp_all [byteOrderMark, List.isPrefixOf]
      rw [decode, hb', if_neg Bool.false_ne_true, decodeLossyChars_line_append]

lemma decode_password {front back : Bytes} (hfront : AheadOfLine front) (hback : BehindLine back) :
    ∃ cs ds, (cs = [] ∨ cs.getLast? = some '\n') ∧ Text.BehindLine ds ∧
      ∀ p, decode (front ++ passwordLine p ++ back) = cs ++ (("password=" ++ p).toList ++ ds) := by
  obtain ⟨cs, hcs, hd⟩ := hfront.decoded
  refine ⟨cs, _, hcs, hback.decoded, fun p => ?_⟩
  have hhead : (passwordLine p ++ back).head? = some 112 := by
    have hkey : (Utf8.encode "password=").head? = some 112 := by decide
    simp [passwordLine, Utf8.encode_append, List.head?_append, hkey]
  rw [List.append_assoc, hd _ (by rw [hhead]; decide), passwordLine,
    Utf8.decodeLossyChars_encode_append]

structure HoldsSwapped (p p' : String) (place : Place) (t t' : FileTree) : Prop
    extends FileTree.AlikeBut {place} t t' where
  lines : ∃ front back, AheadOfLine front ∧ BehindLine back ∧
    t.node? place = some (.file (front ++ passwordLine p ++ back)) ∧
    t'.node? place = some (.file (front ++ passwordLine p' ++ back))

lemma read_of_locate {t : FileTree} {path : Path} {place : Place} {c : Bytes}
    (h : t.locate path = .ok place) (hn : t.node? place = some (.file c)) :
    t.read path = if Path.endsInSlash path then .error (.os .notDirectory) else .ok c := by
  simp only [FileTree.read, FileTree.find, h, bind, Except.bind, hn]
  split_ifs <;> rfl

lemma node?_of_read {t : FileTree} {path : Path} {place : Place} {c : Bytes}
    (h : t.locate path = .ok place) (hread : t.read path = .ok c) :
    t.node? place = some (.file c) ∧ ¬Path.endsInSlash path := by
  obtain ⟨node, hfind, hread⟩ := bind_eq_ok.1 hread
  cases node with
  | directory => cases hread
  | file c' =>
    cases hread
    obtain ⟨place', h', hn, hslash⟩ := FileTree.find_eq_file_iff.1 hfind
    cases h.symm.trans h'
    exact ⟨hn, hslash⟩

lemma load_swapped {place : Place} {t t' : FileTree} (h : HoldsSwapped p p' place t t')
    (hp : OneLine p) (hp' : OneLine p') (path : Path) :
    Agree (Swapped p p') (load t path) (load t' path) := by
  simp only [load, locate_eq h.toAlikeBut, origin_eq h.toAlikeBut]
  refine .of_forall_ok fun found _ => ?_
  by_cases hf : t.locate found = .ok place
  · obtain ⟨front, back, hfront, hback, hn, hn'⟩ := h.lines
    obtain ⟨cs, ds, hcs, hds, hd⟩ := decode_password hfront hback
    rw [read_of_locate hf hn, read_of_locate ((h.locate_eq found).trans hf) hn']
    split
    · exact .error _
    · simp only [Except.mapError, bind, Except.bind, hd]
      exact ofText_swapped _ hcs hds hp hp'
  · rw [h.read_eq (FileTree.misses_singleton.2 hf)]
    exact .refl (fun _ => .inl rfl) _

end FileSettings

namespace Configuration

variable {p p' : String}

def Swapped (p p' : String) (c c' : Configuration) : Prop :=
  c' = c ∨ c.password = p ∧ c' = { c with password := p' }

lemma merge_swapped (a : Arguments) (s : FileSettings) (commands : List String)
    {given stored : Option String}
    (h : passwordOf { a with password := given } { s with password := stored } = passwordOf a s ∨
      passwordOf a s = some p ∧
        passwordOf { a with password := given } { s with password := stored } = some p') :
    Agree (Swapped p p') (merge a s commands)
      (merge { a with password := given } { s with password := stored } commands) := by
  have hpolicy : policyOf { a with password := given } = policyOf a := rfl
  simp only [merge, hpolicy]
  split
  · exact .error _
  · rcases h with h | ⟨h, h'⟩
    · rw [h]
      exact .refl (fun _ => .inl rfl) _
    · rw [h, h']
      exact .ok (.inr ⟨rfl, rfl⟩)

lemma ofArguments_given (t : FileTree) {a a' : Arguments} (h : a.Swapped p p' a') (hp : p ≠ "")
    (hp' : p' ≠ "") : Agree (Swapped p p') (ofArguments t a) (ofArguments t a') := by
  rcases h with rfl | ⟨hw, rfl⟩
  · exact .refl (fun _ => .inl rfl) _
  · refine .of_forall_ok fun s _ => .of_forall_ok fun commands _ => ?_
    apply merge_swapped a s commands
    right
    simp [passwordOf, hw, hp, hp']

lemma ofArguments_stored {place : Place} {t t' : FileTree}
    (h : FileSettings.HoldsSwapped p p' place t t') (hp : OneLine p) (hp' : OneLine p')
    {a : Arguments} (ha : ∀ path, a.commandsFile = some path → t.Misses path {place}) :
    Agree (Swapped p p') (ofArguments t a) (ofArguments t' a) := by
  have hfile : Agree (FileSettings.Swapped p p') (fileSettings t a) (fileSettings t' a) := by
    simp only [fileSettings]
    split
    · exact .ok (.inl rfl)
    · exact (FileSettings.load_swapped h hp hp' _).mapError _
  refine hfile.bind fun s s' hs => ?_
  rw [commandsOf_eq h.toAlikeBut ha]
  refine .of_forall_ok fun commands _ => ?_
  rcases hs with rfl | ⟨hw, rfl⟩
  · exact .refl (fun _ => .inl rfl) _
  · apply merge_swapped a s commands
    cases hg : a.password.filter (· ≠ "") with
    | some q => exact .inl (by simp only [passwordOf, hg, Option.some_or])
    | none => exact .inr (by simp only [passwordOf, hg, Option.none_or, hw, and_self])

end Configuration

end RemoteBatch.Settings
