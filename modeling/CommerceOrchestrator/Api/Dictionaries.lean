/-
# `CommerceOrchestrator.Api.Dictionaries` — dictionaries are read as they are written

A member is a key and a value: a string, an integer, a byte sequence or a list of strings,
with parameters.  Each production leaves the scan where it found it, so the commas between
members are the only ones that split, and members that are added to the headers of a message
come behind those that are there.
-/
import CommerceOrchestrator.Api.SignatureTimes

namespace Orchestrator

open Effect Text

/-! ## What is written -/

/-- Between the quotes of a string: a quote or a backslash only behind a backslash. -/
inductive StringBody : Chars → Prop
  | nil : StringBody []
  | plain {c : Char} {s : Chars} (hquote : c ≠ '"') (hescape : c ≠ '\\') (hs : StringBody s) :
      StringBody (c :: s)
  | escaped (c : Char) {s : Chars} (hs : StringBody s) : StringBody ('\\' :: c :: s)

/-- Any text, to be put between quotes. -/
def escape (s : Chars) : Chars := s.flatMap fun c => if c = '"' ∨ c = '\\' then ['\\', c] else [c]

theorem escape_body (s : Chars) : StringBody (escape s) := by
  induction s with
  | nil => exact .nil
  | cons c s ih =>
      rw [escape, List.flatMap_cons]
      split
      · exact .escaped c ih
      · next hc =>
          rw [not_or] at hc
          exact .plain hc.1 hc.2 ih

inductive BareItem : Chars → Prop
  | string {body : Chars} (hbody : StringBody body) : BareItem (quote body)
  | integer {sign digits : Chars} (hsign : sign = [] ∨ sign = ['-']) (hne : digits ≠ [])
      (hdigits : ∀ c ∈ digits, c.isDigit = true) : BareItem (sign ++ digits)
  | bytes {text : Chars} (htext : ∀ c ∈ text, isBase64 c = true ∨ c = '=') :
      BareItem (':' :: text ++ [':'])

/-- What a key is made of. -/
def keyChar (c : Char) : Bool :=
  !isWhitespace c && c != '=' && c != ',' && c != '"' && c != ':' && c != '(' && c != ')'

inductive Parameters : Chars → Prop
  | nil : Parameters []
  | cons {key value rest : Chars} (hkey : ∀ c ∈ key, keyChar c = true) (hvalue : BareItem value)
      (hrest : Parameters rest) : Parameters (';' :: key ++ '=' :: value ++ rest)

/-- A string of a list, with its parameters. -/
inductive ListItem : Chars → Prop
  | mk {body params : Chars} (hbody : StringBody body) (hparams : Parameters params) :
      ListItem (quote body ++ params)

inductive MemberValue : Chars → Prop
  | item {value params : Chars} (hvalue : BareItem value) (hparams : Parameters params) :
      MemberValue (value ++ params)
  | innerList {items : List Chars} {params : Chars} (hitems : ∀ item ∈ items, ListItem item)
      (hparams : Parameters params) :
      MemberValue ('(' :: [' '].intercalate items ++ ')' :: params)

structure DictionaryMember where
  key : Chars
  value : Chars
  key_ok : ∀ c ∈ key, keyChar c = true
  value_ok : MemberValue value

namespace DictionaryMember

def text (m : DictionaryMember) : Chars := m.key ++ '=' :: m.value

/-- What the reader should make of it. -/
def pair (m : DictionaryMember) : Chars × Chars := (m.key, m.value)

end DictionaryMember

/-- The members as one header. -/
def serialized (members : List DictionaryMember) : Chars :=
  [',', ' '].intercalate (members.map DictionaryMember.text)

/-- A header and more members behind what it holds. -/
def extended (header : Chars) (members : List DictionaryMember) : Chars :=
  [',', ' '].intercalate (header :: members.map DictionaryMember.text)

/-! ## Every production leaves the scan where it found it -/

/-- In no list or in any number of them, nothing of the text splits and nothing stays open. -/
def ScanNeutral (s : Chars) : Prop :=
  ∀ depth, ({ depth } : Lexer).reads s = some { depth }

section Balance

variable {s t body params : Chars}

theorem ScanNeutral.nil : ScanNeutral [] := fun _ => rfl

theorem ScanNeutral.append (hs : ScanNeutral s) (ht : ScanNeutral t) : ScanNeutral (s ++ t) := by
  intro depth
  rw [Lexer.reads_append, hs depth, Option.bind_some, ht depth]

theorem ScanNeutral.cons {c : Char} (hc : ScanNeutral [c]) (hs : ScanNeutral s) :
    ScanNeutral (c :: s) :=
  hc.append hs

/-- Characters that neither split nor open anything. -/
theorem scanNeutral_of_forall
    (h : ∀ c ∈ s, c ≠ ',' ∧ c ≠ '"' ∧ c ≠ ':' ∧ c ≠ '(' ∧ c ≠ ')') : ScanNeutral s := by
  induction s with
  | nil => exact .nil
  | cons c s ih =>
      obtain ⟨⟨hcomma, hquote, hcolon, hopen, hclose⟩, hs⟩ := List.forall_mem_cons.mp h
      refine ScanNeutral.cons (fun depth => ?_) (ih hs)
      simp [Lexer.reads, Lexer.splits, Lexer.next, hcomma, hquote, hcolon, hopen, hclose]

theorem scanNeutral_key (h : ∀ c ∈ s, keyChar c = true) : ScanNeutral s := by
  refine scanNeutral_of_forall fun c hc => ?_
  have := h c hc
  simp only [keyChar, Bool.and_eq_true, bne_iff_ne] at this
  tauto

/-- The body of a string is read within the string. -/
theorem reads_body (h : StringBody body) (depth : Nat) :
    ({ inString := true, depth } : Lexer).reads body = some { inString := true, depth } := by
  induction h with
  | nil => rfl
  | plain hquote hescape hs ih =>
      simp [Lexer.reads, Lexer.splits, Lexer.next, hquote, hescape, ih]
  | escaped c hs ih =>
      simp [Lexer.reads, Lexer.splits, Lexer.next, ih]

theorem scanNeutral_quote (h : StringBody body) : ScanNeutral (quote body) := by
  intro depth
  have hopen : ({ depth } : Lexer).reads ['"'] = some { inString := true, depth } := rfl
  show ({ depth } : Lexer).reads (['"'] ++ (body ++ ['"'])) = _
  rw [Lexer.reads_append, hopen, Option.bind_some, Lexer.reads_append, reads_body h,
    Option.bind_some]
  rfl

theorem BareItem.scanNeutral (h : BareItem s) : ScanNeutral s := by
  cases h with
  | string hbody => exact scanNeutral_quote hbody
  | integer hsign hne hdigits =>
      refine scanNeutral_of_forall fun c hc => ?_
      have hbounds : 45 ≤ c.toNat ∧ c.toNat ≤ 57 := by
        rcases List.mem_append.mp hc with hc | hc
        · rcases hsign with rfl | rfl
          · cases hc
          · rw [List.mem_singleton.mp hc]
            decide
        · have := digit_bounds (hdigits c hc)
          omega
      have hne (d : Char) (hd : d.toNat < 45 ∨ 57 < d.toNat) : c ≠ d := by
        rintro rfl
        omega
      exact ⟨hne _ (by decide), hne _ (by decide), hne _ (by decide), hne _ (by decide),
        hne _ (by decide)⟩
  | @bytes text htext =>
      intro depth
      have hopen : ({ depth } : Lexer).reads [':'] = some { inBytes := true, depth } := rfl
      have hplain : ∀ c ∈ text, Lexer.plain c = true := fun c hc => (base64_char (htext c hc)).1
      show ({ depth } : Lexer).reads ([':'] ++ (text ++ [':'])) = _
      rw [Lexer.reads_append, hopen, Option.bind_some, Lexer.reads_append,
        Lexer.reads_plain hplain rfl, Option.bind_some]
      rfl

theorem Parameters.scanNeutral (h : Parameters params) : ScanNeutral params := by
  induction h with
  | nil => exact .nil
  | cons hkey hvalue hrest ih =>
      have hsemicolon : ScanNeutral [';'] := fun _ => rfl
      have hequals : ScanNeutral ['='] := fun _ => rfl
      have hname := hsemicolon.append (scanNeutral_key hkey)
      exact (hname.append (hequals.append hvalue.scanNeutral)).append ih

theorem ListItem.scanNeutral (h : ListItem s) : ScanNeutral s := by
  cases h with
  | mk hbody hparams => exact (scanNeutral_quote hbody).append hparams.scanNeutral

theorem scanNeutral_intercalate {items : List Chars} (h : ∀ item ∈ items, ScanNeutral item) :
    ScanNeutral ([' '].intercalate items) := by
  have hblank : ScanNeutral [' '] := fun _ => rfl
  induction items with
  | nil => exact .nil
  | cons item items ih =>
      obtain ⟨hitem, hitems⟩ := List.forall_mem_cons.mp h
      cases items with
      | nil => simpa [List.intercalate] using hitem
      | cons item' items =>
          rw [List.intercalate_cons_cons]
          exact (hitem.append hblank).append (ih hitems)

theorem MemberValue.scanNeutral (h : MemberValue s) : ScanNeutral s := by
  cases h with
  | item hvalue hparams => exact hvalue.scanNeutral.append hparams.scanNeutral
  | @innerList items params hitems hparams =>
      intro depth
      have hopen : ({ depth } : Lexer).reads ['('] = some { depth := depth + 1 } := rfl
      have hclose : ({ depth := depth + 1 } : Lexer).reads [')'] = some { depth } := rfl
      have hlist := scanNeutral_intercalate fun item hitem => (hitems item hitem).scanNeutral
      show ({ depth } : Lexer).reads (['('] ++ [' '].intercalate items ++ ([')'] ++ params)) = _
      rw [Lexer.reads_append, Lexer.reads_append, hopen, Option.bind_some, hlist, Option.bind_some,
        Lexer.reads_append, hclose, Option.bind_some, hparams.scanNeutral]

theorem DictionaryMember.scanNeutral (m : DictionaryMember) : ScanNeutral m.text := by
  have hequals : ScanNeutral ['='] := fun _ => rfl
  exact (scanNeutral_key m.key_ok).append (hequals.append m.value_ok.scanNeutral)

end Balance

/-! ## Members are trimmed to themselves -/

/-- The text does not end in white space. -/
def EndsSolid (s : Chars) : Prop := ∀ c ∈ s.getLast?, isWhitespace c = false

section Ends

variable {s t : Chars}

theorem EndsSolid.append (hs : EndsSolid s) (ht : EndsSolid t) : EndsSolid (s ++ t) := by
  intro c hc
  rw [List.getLast?_append] at hc
  cases hlast : t.getLast? with
  | none => exact hs c (by simpa [hlast] using hc)
  | some d => exact ht c (by simpa [hlast] using hc)

theorem endsSolid_of_forall (h : ∀ c ∈ s, isWhitespace c = false) : EndsSolid s :=
  fun c hc => h c (List.mem_of_mem_getLast? hc)

theorem endsSolid_concat {c : Char} (h : isWhitespace c = false) : EndsSolid (s ++ [c]) := by
  intro d hd
  rw [List.getLast?_concat] at hd
  rw [← Option.some.inj hd]
  exact h

theorem quote_endsSolid : EndsSolid (quote s) := endsSolid_concat (s := '"' :: s) (by decide)

theorem BareItem.endsSolid (h : BareItem s) : EndsSolid s := by
  cases h with
  | string hbody => exact quote_endsSolid
  | integer hsign hne hdigits =>
      have hsolid : EndsSolid _ := endsSolid_of_forall fun c hc => by
        have := digit_bounds (hdigits c hc)
        exact isWhitespace_printable (by omega) (by omega)
      rcases hsign with rfl | rfl
      · exact hsolid
      · exact EndsSolid.append (s := ['-']) (endsSolid_concat (s := []) (by decide)) hsolid
  | bytes htext => exact endsSolid_concat (by decide)

theorem Parameters.endsSolid {params : Chars} (h : Parameters params) : EndsSolid params := by
  induction h with
  | nil => exact fun c hc => nomatch hc
  | @cons key value rest hkey hvalue hrest ih =>
      have hequals : EndsSolid ((';' :: key) ++ ['=']) := endsSolid_concat (by decide)
      have hshape : ';' :: key ++ '=' :: value ++ rest =
          ((';' :: key) ++ ['=']) ++ (value ++ rest) := by
        simp
      rw [hshape]
      exact hequals.append (hvalue.endsSolid.append ih)

theorem MemberValue.endsSolid (h : MemberValue s) : EndsSolid s := by
  cases h with
  | item hvalue hparams => exact hvalue.endsSolid.append hparams.endsSolid
  | @innerList items params hitems hparams =>
      have hclose : EndsSolid (('(' :: [' '].intercalate items) ++ [')']) :=
        endsSolid_concat (by decide)
      have hshape : '(' :: [' '].intercalate items ++ ')' :: params =
          (('(' :: [' '].intercalate items) ++ [')']) ++ params := by
        simp
      rw [hshape]
      exact hclose.append hparams.endsSolid

theorem BareItem.head (h : BareItem s) (params : Chars) :
    ∀ c ∈ (s ++ params).head?, isWhitespace c = false := by
  have hdigit {c : Char} (hc : c.isDigit = true) : isWhitespace c = false := by
    have := digit_bounds hc
    exact isWhitespace_printable (by omega) (by omega)
  intro c hc
  cases h with
  | string hbody =>
      obtain rfl : '"' = c := by simpa [quote] using hc
      decide
  | @integer sign digits hsign hne hdigits =>
      rcases hsign with rfl | rfl
      · obtain ⟨d, digits, rfl⟩ := List.exists_cons_of_ne_nil hne
        obtain rfl : d = c := by simpa using hc
        exact hdigit (hdigits d List.mem_cons_self)
      · obtain rfl : '-' = c := by simpa using hc
        decide
  | bytes htext =>
      obtain rfl : ':' = c := by simpa using hc
      decide

/-- A value begins with a character that is not blank. -/
theorem MemberValue.head (h : MemberValue s) : ∀ c ∈ s.head?, isWhitespace c = false := by
  cases h with
  | item hvalue hparams => exact hvalue.head _
  | innerList hitems hparams =>
      intro c hc
      obtain rfl : '(' = c := by simpa using hc
      decide

end Ends

namespace DictionaryMember

variable (m : DictionaryMember)

theorem trimmed_value : trimmed m.value = m.value :=
  strip_eq_self m.value_ok.head m.value_ok.endsSolid

theorem key_solid : ∀ c ∈ m.key, isWhitespace c = false := by
  intro c hc
  have := m.key_ok c hc
  simp only [keyChar, Bool.and_eq_true, Bool.not_eq_true'] at this
  tauto

theorem trimmed_key : trimmed m.key = m.key := strip_eq_self_of_forall m.key_solid

theorem trimmed_text : trimmed m.text = m.text := by
  refine strip_eq_self (fun c hc => ?_) ?_
  · rw [text, List.head?_append] at hc
    cases hkey : m.key.head? with
    | none =>
        obtain rfl : '=' = c := by simpa [hkey] using hc
        decide
    | some d =>
        obtain rfl : d = c := by simpa [hkey] using hc
        exact m.key_solid d (List.mem_of_mem_head? hkey)
  · have hshape : m.text = (m.key ++ ['=']) ++ m.value := by simp [text]
    have hequals : EndsSolid (m.key ++ ['=']) := endsSolid_concat (by decide)
    rw [hshape]
    exact hequals.append m.value_ok.endsSolid

theorem readMember_text : readMember m.text = .ok m.pair := by
  have hkey : '=' ∉ m.key := by
    intro h
    cases m.key_ok _ h
  rw [readMember, text, splitOnce_append hkey]
  show Except.ok (trimmed m.key, trimmed m.value) = _
  rw [trimmed_key, trimmed_value]
  rfl

end DictionaryMember

/-! ## Members are split where they are joined -/

/-- The members behind the first are written with a blank before them. -/
theorem splitMembers_serialized (m : DictionaryMember) (members : List DictionaryMember)
    (current : Chars) :
    splitMembers {} current (serialized (m :: members)) =
      some ((current ++ m.text) :: members.map fun m => ' ' :: m.text) := by
  induction members generalizing m current with
  | nil =>
      have hend : splitMembers {} (current ++ m.text) [] = some [current ++ m.text] := rfl
      rw [serialized, List.map_cons, List.map_nil, List.intercalate_singleton,
        ← List.append_nil m.text, splitMembers_reads (m.scanNeutral 0), List.append_nil]
      exact hend
  | cons m' members ih =>
      have hjoin : serialized (m :: m' :: members) =
          m.text ++ ',' :: ' ' :: serialized (m' :: members) := by
        rw [serialized, List.map_cons, List.map_cons, List.intercalate_cons_cons]
        simp [serialized]
      rw [hjoin, splitMembers_reads (m.scanNeutral 0), splitMembers, if_pos (by rfl), splitMembers,
        if_neg (by decide)]
      have hrest := ih m' [' ']
      show Option.map _ (splitMembers {} [' '] _) = _
      rw [hrest]
      rfl

/-! ## Members come back, and behind those that were there -/

theorem text_ne_nil (m : DictionaryMember) : m.text ≠ [] := by
  simp [DictionaryMember.text]

/-- Whatever blanks stand before them, members are read as what they are. -/
theorem readMembers_texts {texts : List Chars} {members : List DictionaryMember}
    (h : texts.map trimmed = members.map DictionaryMember.text) :
    ((texts.map trimmed).filter (· ≠ [])).mapM readMember =
      .ok (members.map DictionaryMember.pair) := by
  have hkept : (members.map DictionaryMember.text).filter (· ≠ []) =
      members.map DictionaryMember.text := by
    refine List.filter_eq_self.mpr fun t ht => ?_
    obtain ⟨m, -, rfl⟩ := List.mem_map.mp ht
    simpa using text_ne_nil m
  rw [h, hkept]
  clear h hkept
  induction members with
  | nil => rfl
  | cons m members ih =>
      rw [List.map_cons, List.mapM_cons, m.readMember_text, ih]
      rfl

theorem trimmed_blank_text (m : DictionaryMember) : trimmed (' ' :: m.text) = m.text := by
  have hblank : ∀ c ∈ [' '], isWhitespace c = true := List.forall_mem_singleton.mpr (by decide)
  exact (strip_append_left hblank).trans m.trimmed_text

theorem trimmed_texts (members : List DictionaryMember) :
    (members.map fun m => ' ' :: m.text).map trimmed = members.map DictionaryMember.text := by
  rw [List.map_map]
  exact List.map_congr_left fun m _ => trimmed_blank_text m

theorem parseDictionary_serialized (members : List DictionaryMember) :
    parseDictionary (serialized members) = .ok (members.map DictionaryMember.pair) := by
  cases members with
  | nil => rfl
  | cons m members =>
      have hsplit := splitMembers_serialized m members []
      have htexts : (m.text :: members.map fun m => ' ' :: m.text).map trimmed =
          (m :: members).map DictionaryMember.text := by
        rw [List.map_cons, m.trimmed_text, trimmed_texts, List.map_cons]
      rw [parseDictionary, hsplit]
      exact readMembers_texts htexts

/-- An escape is open only in a string. -/
theorem Lexer.next_escaped_inString {l : Lexer} {c : Char}
    (hl : l.escaped = true → l.inString = true) :
    (l.next c).escaped = true → (l.next c).inString = true := by
  unfold Lexer.next
  split
  · exact fun h => (by cases h)
  · next hescaped =>
      split
      · next h => exact fun _ => h.2
      · split
        · exact fun h => absurd h hescaped
        · split
          · exact hl
          · split
            · exact hl
            · split
              · exact hl
              · exact hl

/-- Where a text ends with nothing open, a comma ends its last member. -/
theorem splitMembers_comma {l : Lexer} {current s t : Chars} {members : List Chars}
    (hl : l.escaped = true → l.inString = true) (h : splitMembers l current s = some members) :
    splitMembers l current (s ++ ',' :: t) = (splitMembers {} [] t).map (members ++ ·) := by
  induction s generalizing l current members with
  | nil =>
      rw [splitMembers] at h
      split at h
      · next hclosed =>
          obtain rfl := Option.some.inj h
          simp only [Lexer.closed, Bool.and_eq_true, Bool.not_eq_true', beq_iff_eq] at hclosed
          obtain ⟨⟨hstring, hbytes⟩, hdepth⟩ := hclosed
          have hescaped : l.escaped = false := by
            cases he : l.escaped with
            | false => rfl
            | true => exact absurd (hl he) (by simp [hstring])
          have hsplits := Lexer.splits_eq_true.mpr ⟨rfl, hescaped, hstring, hbytes, hdepth⟩
          have hbase : l = {} := by
            obtain ⟨inString, inBytes, depth, escaped⟩ := l
            simp_all
          rw [List.nil_append, splitMembers, if_pos hsplits, hbase]
          rfl
      · cases h
  | cons c s ih =>
      rw [List.cons_append, splitMembers]
      rw [splitMembers] at h
      split at h
      · next hsplits =>
          obtain ⟨rest, hrest, rfl⟩ := Option.map_eq_some_iff.mp h
          rw [if_pos hsplits, ih hl hrest, Option.map_map]
          rfl
      · next hreads =>
          rw [if_neg hreads]
          exact ih (Lexer.next_escaped_inString hl) h

theorem extended_cons (header : Chars) (m : DictionaryMember) (members : List DictionaryMember) :
    extended header (m :: members) = header ++ ',' :: ' ' :: serialized (m :: members) := by
  rw [extended, List.map_cons, List.intercalate_cons_cons]
  simp [serialized]

/-- **More members come behind those that are read.** -/
theorem parseDictionary_extended {header : Chars} {inputs : List (Chars × Chars)}
    (h : parseDictionary header = .ok inputs) (members : List DictionaryMember) :
    parseDictionary (extended header members) =
      .ok (inputs ++ members.map DictionaryMember.pair) := by
  cases members with
  | nil => simpa [extended, List.intercalate_singleton] using h
  | cons m members =>
      unfold parseDictionary at h
      split at h
      · cases h
      next texts htexts =>
      have hblank : splitMembers {} [] (' ' :: serialized (m :: members)) =
          some ((m :: members).map fun m => ' ' :: m.text) := by
        rw [splitMembers, if_neg (by decide)]
        exact splitMembers_serialized m members [' ']
      have hsplit : splitMembers {} [] (extended header (m :: members)) =
          some (texts ++ (m :: members).map fun m => ' ' :: m.text) := by
        rw [extended_cons, splitMembers_comma (fun h => (by cases h)) htexts, hblank]
        rfl
      have hnew := readMembers_texts (trimmed_texts (m :: members))
      unfold parseDictionary
      rw [hsplit]
      show List.mapM readMember _ = _
      rw [List.map_append, List.filter_append, List.mapM_append, h, hnew]
      rfl

section Verify

variable {verify verify' : Chars × Chars → Except SignatureError Chars} {kid : Chars}

/-- What is accepted among the first members is accepted, whatever comes behind. -/
theorem firstAccepted_append {inputs more : List (Chars × Chars)} :
    ∀ {firstError : Option SignatureError}, (∀ input ∈ inputs, verify' input = verify input) →
    VerifyingKeyring.firstAccepted verify firstError inputs = .ok kid →
      VerifyingKeyring.firstAccepted verify' firstError (inputs ++ more) = .ok kid := by
  induction inputs with
  | nil =>
      intro firstError _ h
      cases h
  | cons input inputs ih =>
      intro firstError hsame h
      obtain ⟨hinput, hsame⟩ := List.forall_mem_cons.mp hsame
      rw [List.cons_append, VerifyingKeyring.firstAccepted, hinput]
      rw [VerifyingKeyring.firstAccepted] at h
      split at h
      · exact h
      · exact ih hsame h

end Verify

/-- Under a label that is in no new member, the signature stays the one it was. -/
theorem find_signature_append {signatures : List (Chars × Chars)} {members : List DictionaryMember}
    {label : Chars} (h : ∀ m ∈ members, m.key ≠ label) :
    (signatures ++ members.map DictionaryMember.pair).find? (·.1 = label) =
      signatures.find? (·.1 = label) := by
  have hnone : (members.map DictionaryMember.pair).find? (·.1 = label) = none := by
    refine List.find?_eq_none.mpr fun e he => ?_
    obtain ⟨m, hm, rfl⟩ := List.mem_map.mp he
    exact fun he => h m hm (of_decide_eq_true he)
  rw [List.find?_append, hnone, Option.or_none]

/-- **Dictionaries are read as they are written**, and a message that is accepted stays so with
more members in its headers, under labels that are new. -/
theorem dictionaries_read_back :
    (∀ members : List DictionaryMember,
      parseDictionary (serialized members) = .ok (members.map DictionaryMember.pair)) ∧
    ∀ {C : SignatureCrates} (ring : VerifyingKeyring C) (components : MessageComponents)
      (signatureInput signature : Chars) (required : List Chars) (now : Int64) (kid : Chars),
      ring.verifyMessage components signatureInput signature required now = .ok kid →
      ∀ newInputs newSignatures : List DictionaryMember,
        (∀ inputs, parseDictionary signatureInput = .ok inputs →
          ∀ m ∈ newSignatures, ∀ input ∈ inputs, m.key ≠ input.1) →
        ring.verifyMessage components (extended signatureInput newInputs)
          (extended signature newSignatures) required now = .ok kid := by
  refine ⟨parseDictionary_serialized, ?_⟩
  intro C ring components signatureInput signature required now kid haccepted newInputs
    newSignatures hfresh
  obtain ⟨inputs, hinputs, h⟩ := bind_eq_ok.mp haccepted
  obtain ⟨signatures, hsignatures, h⟩ := bind_eq_ok.mp h
  refine bind_eq_ok.mpr ⟨_, parseDictionary_extended hinputs newInputs, bind_eq_ok.mpr
    ⟨_, parseDictionary_extended hsignatures newSignatures, ?_⟩⟩
  split at h
  · cases h
  · next hpresent =>
      rw [not_or] at hpresent
      rw [if_neg (by simp [hpresent])]
      refine firstAccepted_append (fun input hinput => ?_) h
      have hsame : (signatures ++ newSignatures.map DictionaryMember.pair).find? (·.1 = input.1) =
          signatures.find? (·.1 = input.1) :=
        find_signature_append fun m hm => hfresh inputs hinputs m hm input hinput
      rw [hsame]

/-- A member that is a string with a comma in it. -/
def listedNames : DictionaryMember where
  key := "sig2".toList
  value := quote (escape "a, b".toList) ++ []
  key_ok := List.all_eq_true.mp rfl
  value_ok := .item (.string (escape_body _)) .nil

open AgentTimes in
theorem dictionaries_read_back_sample :
    ring.verifyMessage components (extended (signatureLabel ++ '=' :: timeless) [listedNames])
      (extended (signatureLabel ++ "=:".toList ++ encodeStandard signature ++ [':']) [listedNames])
      [] 1760000000 = .ok "agent-1".toList := by
  refine dictionaries_read_back.2 ring components _ _ [] 1760000000 _ (accepted _)
    [listedNames] [listedNames] fun inputs hinputs m hm input hinput => ?_
  obtain ⟨-, hparsed, -⟩ := timeless_eq
  rw [hparsed] at hinputs
  obtain rfl := Except.ok.inj hinputs
  obtain rfl := List.mem_singleton.mp hm
  obtain rfl := List.mem_singleton.mp hinput
  decide

end Orchestrator
