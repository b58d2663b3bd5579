/-
# `CommerceOrchestrator.Api.SigningRoundTrip` — what a keyring signs, and who accepts it

The signer puts names and key id between quotes as they are, and nothing is escaped.  The
verifier takes the header apart three times: members at commas, parameters at semicolons,
names at white space up to the first closing bracket.  So a signature is accepted back
exactly if names and id survive each of these (`RoundTrips`).
-/
import CommerceOrchestrator.Api.Signing

namespace Orchestrator

open Effect Text

/-! ## Reading a member -/

namespace Lexer

/-- Read characters of one member, if none of them ends it. -/
def reads : Lexer → Chars → Option Lexer
  | l, [] => some l
  | l, ch :: rest => if l.splits ch then none else (l.next ch).reads rest

variable {l l' : Lexer} {s t : Chars} {c : Char}

theorem reads_append : l.reads (s ++ t) = (l.reads s).bind (·.reads t) := by
  induction s generalizing l with
  | nil => rfl
  | cons ch s ih =>
      rw [List.cons_append, reads, reads]
      split
      · rfl
      · exact ih

/-- Characters that mean nothing to the scan. -/
def plain (c : Char) : Bool :=
  c != '\\' && c != '"' && c != ':' && c != '(' && c != ')' && c != ','

theorem next_plain (hc : plain c = true) (hl : l.escaped = false) : l.next c = l := by
  simp only [plain, Bool.and_eq_true, bne_iff_ne] at hc
  simp [next, hl, hc]

theorem reads_plain (hs : ∀ c ∈ s, plain c = true) (hl : l.escaped = false) :
    l.reads s = some l := by
  induction s with
  | nil => rfl
  | cons c s ih =>
      obtain ⟨hc, hs⟩ := List.forall_mem_cons.mp hs
      have hcomma : c ≠ ',' := by
        rintro rfl
        cases hc
      rw [reads, if_neg (by simp [splits, hcomma]), next_plain hc hl]
      exact ih hs

theorem splits_eq_true : l.splits c = true ↔
    c = ',' ∧ l.escaped = false ∧ l.inString = false ∧ l.inBytes = false ∧ l.depth = 0 := by
  simp only [splits, Bool.and_eq_true, Bool.not_eq_true', beq_iff_eq]
  tauto

/-- After a character other than a backslash, nothing is escaped. -/
theorem next_escaped (hc : c ≠ '\\') : (l.next c).escaped = false := by
  unfold next
  split
  · rfl
  · next hl =>
      have hl := Bool.eq_false_iff.mpr hl
      rw [if_neg (fun h => hc h.1)]
      split
      · exact hl
      · split
        · exact hl
        · split
          · exact hl
          · split <;> exact hl

theorem reads_concat_escaped (hc : c ≠ '\\') (h : l.reads (s ++ [c]) = some l') :
    l'.escaped = false := by
  rw [reads_append, Option.bind_eq_some_iff] at h
  obtain ⟨l₁, -, h⟩ := h
  rw [reads] at h
  split at h
  · cases h
  · obtain rfl := Option.some.inj h
    exact next_escaped hc

/-- Where a text cannot be read as a part of one member, there is a first comma that ends it. -/
theorem reads_eq_none (h : l.reads s = none) :
    ∃ a b l', s = a ++ ',' :: b ∧ l.reads a = some l' ∧ l'.splits ',' = true := by
  induction s generalizing l with
  | nil => cases h
  | cons c s ih =>
      rw [reads] at h
      split at h
      · next hsplits =>
          obtain ⟨rfl, -⟩ := splits_eq_true.mp hsplits
          exact ⟨[], s, l, rfl, rfl, hsplits⟩
      · next hreads =>
          obtain ⟨a, b, l', rfl, ha, hsplits⟩ := ih h
          refine ⟨c :: a, b, l', rfl, ?_, hsplits⟩
          rw [reads, if_neg hreads]
          exact ha

/-- Inside a list nothing ends the member. -/
theorem reads_inside (hs : ')' ∉ s) (hl : 0 < l.depth) :
    ∃ l', l.reads s = some l' ∧ 0 < l'.depth := by
  induction s generalizing l with
  | nil => exact ⟨l, rfl, hl⟩
  | cons c s ih =>
      rw [List.mem_cons, not_or] at hs
      have hdepth : 0 < (l.next c).depth := by
        unfold next
        split
        · exact hl
        split
        · exact hl
        split
        · exact hl
        split
        · exact hl
        split
        · exact Nat.succ_pos _
        split
        · next hc => exact absurd hc.1.symm hs.1
        · exact hl
      have hsplits : ¬ l.splits c = true := by
        intro h
        have := (splits_eq_true.mp h).2.2.2.2
        omega
      rw [reads, if_neg hsplits]
      exact ih hs.2 hdepth

end Lexer

theorem splitMembers_reads {l l' : Lexer} {s t current : Chars} (h : l.reads s = some l') :
    splitMembers l current (s ++ t) = splitMembers l' (current ++ s) t := by
  induction s generalizing l current with
  | nil =>
      obtain rfl := Option.some.inj h
      rw [List.append_nil, List.nil_append]
  | cons c s ih =>
      rw [Lexer.reads] at h
      split at h
      · cases h
      · next hreads =>
          rw [List.cons_append, splitMembers, if_neg hreads, ih h, List.append_assoc]
          rfl

/-- A text that can be read as a part of one member is one, if it leaves nothing open. -/
theorem splitMembers_of_reads {l l' : Lexer} {s current : Chars} (h : l.reads s = some l') :
    splitMembers l current s = if l'.closed then some [current ++ s] else none := by
  have hs : splitMembers l current (s ++ []) = splitMembers l' (current ++ s) [] :=
    splitMembers_reads h
  rwa [List.append_nil, splitMembers] at hs

/-- The members of a text are parts of it. -/
theorem mem_splitMembers {s : Chars} : ∀ {l : Lexer} {current : Chars} {members : List Chars},
    splitMembers l current s = some members → ∀ m ∈ members, m <:+: current ++ s := by
  induction s with
  | nil =>
      intro l current members h m hm
      rw [splitMembers] at h
      split at h
      · obtain rfl := Option.some.inj h
        obtain rfl := List.mem_singleton.mp hm
        rw [List.append_nil]
      · cases h
  | cons c s ih =>
      intro l current members h m hm
      rw [splitMembers] at h
      split at h
      · obtain ⟨rest, hrest, rfl⟩ := Option.map_eq_some_iff.mp h
        rcases List.mem_cons.mp hm with rfl | hm
        · exact (List.prefix_append _ _).isInfix
        · exact (ih hrest m hm).trans ⟨current ++ [c], [], by simp⟩
      · have hm := ih h m hm
        rwa [List.append_assoc] at hm

/-! ## Characters -/

theorem isWhitespace_printable {c : Char} (h : 33 ≤ c.toNat) (h' : c.toNat ≤ 126) :
    isWhitespace c = false := by
  have hne (n : UInt32) (hn : n.toNat < 33 ∨ 126 < n.toNat) : (c.val == n) = false := by
    rw [beq_eq_false_iff_ne]
    rintro rfl
    have : c.toNat = c.val.toNat := rfl
    omega
  have hlt (a b : UInt32) (hn : b.toNat < 33 ∨ 126 < a.toNat) : (decide (a ≤ c.val) && decide (c.val ≤ b)) = false := by
    rw [Bool.and_eq_false_iff, decide_eq_false_iff_not, decide_eq_false_iff_not, UInt32.le_iff_toNat_le, UInt32.le_iff_toNat_le]
    have : c.toNat = c.val.toNat := rfl
    omega
  rw [isWhitespace, hlt 9 13 (by decide), hne 0x20 (by decide), hne 0x85 (by decide),
    hne 0xA0 (by decide), hne 0x1680 (by decide), hlt 0x2000 0x200A (by decide),
    hne 0x2028 (by decide), hne 0x2029 (by decide), hne 0x202F (by decide), hne 0x205F (by decide),
    hne 0x3000 (by decide)]
  rfl

theorem digit_bounds {c : Char} (h : c.isDigit = true) : 48 ≤ c.toNat ∧ c.toNat ≤ 57 := by
  simp only [Char.isDigit, Bool.and_eq_true, decide_eq_true_eq, UInt32.le_iff_toNat_le, ge_iff_le] at h
  exact h

theorem isBase64_bounds {c : Char} (h : isBase64 c = true) : 43 ≤ c.toNat ∧ c.toNat ≤ 122 := by
  simp only [isBase64, Char.isAlphanum, Char.isAlpha, Char.isUpper, Char.isLower, Char.isDigit,
    Bool.or_eq_true, Bool.and_eq_true, decide_eq_true_eq, beq_iff_eq, UInt32.le_iff_toNat_le,
    ge_iff_le] at h
  rcases h with (((((h | h) | h) | rfl) | rfl) | rfl) | rfl
  · exact ⟨Nat.le_trans (by decide) h.1, Nat.le_trans h.2 (by decide)⟩
  · exact ⟨Nat.le_trans (by decide) h.1, Nat.le_trans h.2 (by decide)⟩
  · exact ⟨Nat.le_trans (by decide) h.1, Nat.le_trans h.2 (by decide)⟩
  all_goals decide

theorem renderInt_bounds {n : Int64} {c : Char} (h : c ∈ renderInt n) :
    45 ≤ c.toNat ∧ c.toNat ≤ 57 := by
  rcases mem_renderInt h with rfl | h
  · decide
  · have := digit_bounds h
    omega

theorem renderInt_not_whitespace {n : Int64} : ∀ c ∈ renderInt n, isWhitespace c = false := by
  intro c hc
  have := renderInt_bounds hc
  exact isWhitespace_printable (by omega) (by omega)

theorem renderInt_plain {n : Int64} : ∀ c ∈ renderInt n, Lexer.plain c = true := by
  intro c hc
  rcases mem_renderInt hc with rfl | hdigit
  · decide
  · have hbounds := digit_bounds hdigit
    have hne (d : Char) (hd : d.toNat < 48 ∨ 57 < d.toNat) : c ≠ d := by
      rintro rfl
      omega
    simp only [Lexer.plain, Bool.and_eq_true, bne_iff_ne]
    exact ⟨⟨⟨⟨⟨hne _ (by decide), hne _ (by decide)⟩, hne _ (by decide)⟩, hne _ (by decide)⟩,
      hne _ (by decide)⟩, hne _ (by decide)⟩

theorem renderInt_no_semicolon {n : Int64} : ';' ∉ renderInt n := by
  intro h
  have := renderInt_bounds h
  revert this
  decide

theorem renderInt_ne_nil {n : Int64} : renderInt n ≠ [] := by
  intro h
  have hread := parseInt_renderInt n
  rw [h] at hread
  cases hread

/-! ## Reading the parameters back -/

section Params

variable {covered : List Chars} {kid : Chars} {created : Int64} {expires : Option Int64}

/-- The texts between the semicolons, behind the list. -/
def paramTexts (created : Int64) (kid : Chars) (expires : Option Int64) : List Chars :=
  ["created=".toList ++ renderInt created, "keyid=".toList ++ quote kid] ++
    (expires.map fun expires => "expires=".toList ++ renderInt expires).toList

theorem signatureParams_eq :
    signatureParams covered created kid expires =
      quotedList covered ++ ';' :: [';'].intercalate (paramTexts created kid expires) := by
  cases expires <;> simp [signatureParams, paramTexts, List.intercalate, quote]

theorem quote_no_semicolon (h : ';' ∉ kid) : ';' ∉ quote kid := by
  simp [quote, h]

theorem paramTexts_no_semicolon (h : ';' ∉ kid) : ∀ t ∈ paramTexts created kid expires, ';' ∉ t := by
  intro t ht
  rcases List.mem_append.mp ht with ht | ht
  · simp only [List.mem_cons, List.not_mem_nil, or_false] at ht
    rcases ht with rfl | rfl
    · simp [renderInt_no_semicolon]
    · simp [quote_no_semicolon h]
  · obtain ⟨n, hn, rfl⟩ := Option.map_eq_some_iff.mp (Option.mem_toList.mp ht)
    simp [renderInt_no_semicolon]

/-- A text that begins and ends with characters that are not blank. -/
theorem trimmed_eq_self {a b : Char} {s : Chars} (ha : isWhitespace a = false)
    (hb : isWhitespace b = false) : trimmed (a :: s ++ [b]) = a :: s ++ [b] := by
  refine strip_eq_self (fun c hc => ?_) fun c hc => ?_
  · obtain rfl : a = c := by simpa using hc
    exact ha
  · obtain rfl := Option.some.inj (List.getLast?_concat.symm.trans hc)
    exact hb

theorem trimmed_renderInt {n : Int64} {a : Char} {s : Chars} (ha : isWhitespace a = false) :
    trimmed (a :: s ++ renderInt n) = a :: s ++ renderInt n := by
  have hdrop := List.dropLast_append_getLast (renderInt_ne_nil (n := n))
  have hlast := renderInt_not_whitespace _ (List.getLast_mem (renderInt_ne_nil (n := n)))
  rw [← hdrop, ← List.append_assoc]
  exact trimmed_eq_self (s := s ++ (renderInt n).dropLast) ha hlast

theorem trimmed_paramTexts : (paramTexts created kid expires).map trimmed =
    paramTexts created kid expires := by
  refine List.map_congr_left (fun t ht => ?_) |>.trans (List.map_id _)
  rcases List.mem_append.mp ht with ht | ht
  · simp only [List.mem_cons, List.not_mem_nil, or_false] at ht
    rcases ht with rfl | rfl
    · exact trimmed_renderInt (s := "reated=".toList) (by decide)
    · exact trimmed_eq_self (s := "eyid=".toList ++ '"' :: kid) (by decide) (by decide)
  · obtain ⟨n, hn, rfl⟩ := Option.map_eq_some_iff.mp (Option.mem_toList.mp ht)
    exact trimmed_renderInt (s := "xpires=".toList) (by decide)

theorem paramList_paramTexts (h : ';' ∉ kid) :
    paramList (';' :: [';'].intercalate (paramTexts created kid expires)) =
      paramTexts created kid expires := by
  have hsplit : (';' :: [';'].intercalate (paramTexts created kid expires)).splitOn ';' =
      [] :: paramTexts created kid expires := by
    have hcat : ';' :: [';'].intercalate (paramTexts created kid expires) =
        [';'].intercalate ([] :: paramTexts created kid expires) := by
      simp [paramTexts, List.intercalate]
    rw [hcat]
    refine List.splitOn_intercalate _ (fun t ht => ?_) (List.cons_ne_nil _ _)
    rcases List.mem_cons.mp ht with rfl | ht
    · exact List.not_mem_nil
    · exact paramTexts_no_semicolon h t ht
  rw [paramList, hsplit, List.map_cons, trimmed_paramTexts]
  cases expires <;> rfl

/-- The parameters are read one after the other. -/
theorem set_paramTexts (parsed : SignatureParams) :
    (paramTexts created kid expires).foldlM SignatureParams.set parsed =
      .ok { parsed with
        created := some created, keyid := kid
        expires := expires.elim parsed.expires some } := by
  have hcreated (p : SignatureParams) : p.set ("created=".toList ++ renderInt created) =
      .ok { p with created := some created } := by
    have hsplit : splitOnce '=' ("created=".toList ++ renderInt created) =
        some ("created".toList, renderInt created) := splitOnce_append (a := "created".toList) (by decide)
    simp only [SignatureParams.set, hsplit, Option.getD_some, if_pos, SignatureParams.integerParam,
      parseInt_renderInt]
    rfl
  have hkeyid (p : SignatureParams) : p.set ("keyid=".toList ++ quote kid) =
      .ok { p with keyid := kid } := by
    have hsplit : splitOnce '=' ("keyid=".toList ++ quote kid) = some ("keyid".toList, quote kid) :=
      splitOnce_append (a := "keyid".toList) (by decide)
    simp only [SignatureParams.set, hsplit, Option.getD_some, SignatureParams.stringParam,
      unquote_eq_some.mpr rfl]
    rfl
  have hexpires (p : SignatureParams) (n : Int64) : p.set ("expires=".toList ++ renderInt n) =
      .ok { p with expires := some n } := by
    have hsplit : splitOnce '=' ("expires=".toList ++ renderInt n) =
        some ("expires".toList, renderInt n) := splitOnce_append (a := "expires".toList) (by decide)
    simp only [SignatureParams.set, hsplit, Option.getD_some, SignatureParams.integerParam,
      parseInt_renderInt]
    rfl
  cases expires with
  | none =>
      simp only [paramTexts, Option.map_none, Option.toList_none, List.append_nil,
        List.foldlM_cons, List.foldlM_nil, hcreated, hkeyid]
      rfl
  | some n =>
      simp only [paramTexts, Option.map_some, Option.toList_some, List.cons_append, List.nil_append,
        List.foldlM_cons, List.foldlM_nil, hcreated, hkeyid, hexpires]
      rfl

theorem quotedList_no_close {covered : List Chars} (h : ∀ name ∈ covered, ')' ∉ name) :
    ')' ∉ [' '].intercalate (covered.map quote) := by
  induction covered with
  | nil => simp [List.intercalate]
  | cons name covered ih =>
      obtain ⟨hname, hcovered⟩ := List.forall_mem_cons.mp h
      cases covered with
      | nil => simpa [List.intercalate, quote] using hname
      | cons name' covered =>
          have hrest := ih hcovered
          rw [List.map_cons, List.map_cons, List.intercalate_cons_cons, ← List.map_cons]
          simp only [List.mem_append, not_or]
          exact ⟨⟨by simpa [quote] using hname, by decide⟩, hrest⟩

/-- Names without white space are the words of their list. -/
theorem words_quotedList {covered : List Chars}
    (h : ∀ name ∈ covered, ∀ c ∈ name, isWhitespace c = false) :
    words isWhitespace ([' '].intercalate (covered.map quote)) = covered.map quote := by
  refine words_intercalate (by decide) fun w hw => ?_
  obtain ⟨name, hname, rfl⟩ := List.mem_map.mp hw
  refine ⟨List.cons_ne_nil _ _, fun c hc => ?_⟩
  rcases List.mem_append.mp hc with hc | hc
  · rcases List.mem_cons.mp hc with rfl | hc
    · decide
    · exact h name hname c hc
  · obtain rfl := List.mem_singleton.mp hc
    decide

theorem mapM_coveredName (covered : List Chars) :
    (covered.map quote).mapM coveredName = .ok covered := by
  induction covered with
  | nil => rfl
  | cons name covered ih =>
      have hname : coveredName (quote name) = .ok name := by
        rw [coveredName, unquote_eq_some.mpr rfl]
      rw [List.map_cons, List.mapM_cons, hname, ih]
      rfl

theorem trimmed_signatureParams :
    trimmed (signatureParams covered created kid expires) =
      signatureParams covered created kid expires := by
  cases expires with
  | none =>
      have hshape : signatureParams covered created kid none = '(' ::
          ([' '].intercalate (covered.map quote) ++ [')'] ++ ";created=".toList ++
            renderInt created ++ ";keyid=".toList ++ '"' :: kid) ++ ['"'] := by
        simp [signatureParams, quotedList, quote]
      rw [hshape]
      exact trimmed_eq_self (by decide) (by decide)
  | some n =>
      have hshape : signatureParams covered created kid (some n) = '(' ::
          ([' '].intercalate (covered.map quote) ++ [')'] ++ ";created=".toList ++
            renderInt created ++ ";keyid=".toList ++ quote kid ++ ";expires=".toList) ++
          renderInt n := by
        simp [signatureParams, quotedList]
      rw [hshape]
      exact trimmed_renderInt (by decide)

/-- **The parameters are read back** if no name has white space or a closing bracket and the
id has no semicolon. -/
theorem parseSignatureParams_signatureParams
    (hnames : ∀ name ∈ covered, (∀ c ∈ name, isWhitespace c = false) ∧ ')' ∉ name)
    (hkid : ';' ∉ kid) (hne : kid ≠ []) :
    parseSignatureParams (signatureParams covered created kid expires) =
      .ok { covered, created := some created, expires, keyid := kid } := by
  have hclose := quotedList_no_close fun name hname => (hnames name hname).2
  have hprefix : stripPrefix '(' (trimmed (signatureParams covered created kid expires)) =
      some ([' '].intercalate (covered.map quote) ++ ')' ::
        ';' :: [';'].intercalate (paramTexts created kid expires)) := by
    rw [trimmed_signatureParams, signatureParams_eq, quotedList, stripPrefix_eq_some]
    simp
  have hwords := words_quotedList fun name hname => (hnames name hname).1
  simp only [parseSignatureParams, hprefix, splitOnce_append hclose, hwords, mapM_coveredName,
    paramList_paramTexts hkid, set_paramTexts]
  show (if kid = [] then _ else _) = _
  rw [if_neg hne]
  cases expires <;> rfl

end Params

/-! ## Reading the two headers back -/

/-- A text that begins with a character that is not blank, and ends as a trimmed text does. -/
theorem trimmed_append {a : Char} {s t : Chars} (ha : isWhitespace a = false)
    (ht : trimmed t = t) (hne : t ≠ []) : trimmed (a :: s ++ t) = a :: s ++ t := by
  have hlast : t.rdropWhile isWhitespace = t := by
    conv_lhs => rw [← ht, trimmed, strip, List.rdropWhile_idempotent]
    exact ht
  have hb := Bool.eq_false_iff.mpr (List.rdropWhile_eq_self_iff.mp hlast hne)
  rw [← List.dropLast_append_getLast hne, ← List.append_assoc]
  exact trimmed_eq_self (s := s ++ t.dropLast) ha hb

/-- One member that is read as it is. -/
theorem parseDictionary_label {value : Chars} {l : Lexer}
    (hreads : ({} : Lexer).reads (signatureLabel ++ '=' :: value) = some l)
    (hclosed : l.closed = true) (htrimmed : trimmed value = value) (hne : value ≠ []) :
    parseDictionary (signatureLabel ++ '=' :: value) = .ok [(signatureLabel, value)] := by
  have hmember : trimmed (signatureLabel ++ '=' :: value) = signatureLabel ++ '=' :: value := by
    have hshape := trimmed_append (a := 's') (s := "ig1=".toList) (by decide) htrimmed hne
    exact hshape
  have hread : readMember (signatureLabel ++ '=' :: value) = .ok (signatureLabel, value) := by
    have hlabel : trimmed signatureLabel = signatureLabel := by decide
    rw [readMember, splitOnce_append (by decide)]
    show Except.ok (trimmed signatureLabel, trimmed value) = _
    rw [hlabel, htrimmed]
  rw [parseDictionary, splitMembers_of_reads hreads, if_pos hclosed]
  simp only [List.nil_append, List.map_cons, List.map_nil, hmember]
  rw [List.filter_cons_of_pos (by simp [signatureLabel]), List.filter_nil, List.mapM_cons, hread]
  rfl

section Headers

variable {covered : List Chars} {kid : Chars} {created : Int64} {expires : Option Int64}

/-- Between the names and the id there is nothing that matters to the scan. -/
theorem reads_names {rest : Chars} :
    ({} : Lexer).reads (signatureLabel ++ '=' :: (quotedList covered ++
      (";created=".toList ++ renderInt created ++ ";keyid=".toList ++ rest))) =
      ({} : Lexer).reads (quotedList covered ++ rest) := by
  have hmid : ∀ c ∈ ";created=".toList ++ renderInt created ++ ";keyid=".toList,
      Lexer.plain c = true :=
    List.forall_mem_append.mpr ⟨List.forall_mem_append.mpr
      ⟨List.all_eq_true.mp rfl, renderInt_plain⟩, List.all_eq_true.mp rfl⟩
  have hlabel : ({} : Lexer).reads "sig1=".toList = some {} := by decide
  show ({} : Lexer).reads ("sig1=".toList ++ (quotedList covered ++ _)) = _
  rw [Lexer.reads_append, hlabel, Option.bind_some, Lexer.reads_append,
    Lexer.reads_append (s := quotedList covered)]
  cases hlist : ({} : Lexer).reads (quotedList covered) with
  | none => rfl
  | some l =>
      have hl : l.escaped = false :=
        Lexer.reads_concat_escaped (s := '(' :: [' '].intercalate (covered.map quote)) (c := ')')
          (by decide) hlist
      rw [Option.bind_some, Option.bind_some, Lexer.reads_append, Lexer.reads_plain hmid hl,
        Option.bind_some]

/-- Only the names and the id matter to the scan. -/
theorem reads_signatureParams (created : Int64) (expires : Option Int64) :
    ({} : Lexer).reads (signatureLabel ++ '=' :: signatureParams covered created kid expires) =
      ({} : Lexer).reads (quotedList covered ++ quote kid) := by
  have hend : ∀ c ∈ expires.elim [] fun expires => ";expires=".toList ++ renderInt expires,
      Lexer.plain c = true := by
    cases expires with
    | none => exact fun c hc => nomatch hc
    | some n => exact List.forall_mem_append.mpr ⟨List.all_eq_true.mp rfl, renderInt_plain⟩
  have hshape : signatureParams covered created kid expires = quotedList covered ++
      (";created=".toList ++ renderInt created ++ ";keyid=".toList ++ (quote kid ++
        expires.elim [] fun expires => ";expires=".toList ++ renderInt expires)) := by
    simp [signatureParams]
  rw [hshape, reads_names, ← List.append_assoc, Lexer.reads_append]
  cases hkid : ({} : Lexer).reads (quotedList covered ++ quote kid) with
  | none => rfl
  | some l =>
      have hl : l.escaped = false :=
        Lexer.reads_concat_escaped (s := quotedList covered ++ '"' :: kid) (c := '"')
          (by decide) (by simpa [quote] using hkid)
      rw [Option.bind_some, Lexer.reads_plain hend hl]

/-- The characters of base64 mean nothing to the scan and are not blank. -/
theorem base64_char {c : Char} (h : isBase64 c = true ∨ c = '=') :
    Lexer.plain c = true ∧ isWhitespace c = false := by
  rcases h with hc | rfl
  · have hne (d : Char) (hd : isBase64 d = false) : c ≠ d := by
      rintro rfl
      exact Bool.false_ne_true (hd.symm.trans hc)
    have hbounds : 43 ≤ c.toNat ∧ c.toNat ≤ 122 := isBase64_bounds hc
    refine ⟨?_, isWhitespace_printable (by omega) (by omega)⟩
    simp only [Lexer.plain, Bool.and_eq_true, bne_iff_ne]
    exact ⟨⟨⟨⟨⟨hne _ (by decide), hne _ (by decide)⟩, hne _ (by decide)⟩, hne _ (by decide)⟩,
      hne _ (by decide)⟩, hne _ (by decide)⟩
  · decide

theorem encodeStandard_char {bytes : Bytes} {c : Char} (hc : c ∈ encodeStandard bytes) :
    Lexer.plain c = true ∧ isWhitespace c = false := base64_char (mem_encodeStandard hc)

/-- The signature is read back. -/
theorem parseDictionary_signature (bytes : Bytes) :
    parseDictionary (signatureLabel ++ "=:".toList ++ encodeStandard bytes ++ [':']) =
      .ok [(signatureLabel, ':' :: encodeStandard bytes ++ [':'])] := by
  have hshape : signatureLabel ++ "=:".toList ++ encodeStandard bytes ++ [':'] =
      signatureLabel ++ '=' :: (':' :: encodeStandard bytes ++ [':']) := by
    simp
  have hreads : ({} : Lexer).reads (signatureLabel ++ '=' :: (':' :: encodeStandard bytes ++ [':'])) =
      some {} := by
    have hopen : ({} : Lexer).reads "sig1=:".toList = some { inBytes := true } := by decide
    have hsplit : signatureLabel ++ '=' :: (':' :: encodeStandard bytes ++ [':']) =
        "sig1=:".toList ++ (encodeStandard bytes ++ [':']) := by
      simp [signatureLabel]
    rw [hsplit, Lexer.reads_append, hopen, Option.bind_some, Lexer.reads_append,
      Lexer.reads_plain (fun c hc => (encodeStandard_char hc).1) rfl]
    rfl
  rw [hshape]
  exact parseDictionary_label hreads rfl (trimmed_eq_self (by decide) (by decide))
    (List.cons_ne_nil _ _)

theorem parseByteSequence_encodeStandard (bytes : Bytes) :
    parseByteSequence (':' :: encodeStandard bytes ++ [':']) = some bytes := by
  have hcolon : ':' ∉ encodeStandard bytes := by
    intro hc
    cases (encodeStandard_char hc).1
  rw [parseByteSequence, trimmed_eq_self (by decide) (by decide)]
  show (stripPrefix ':' (':' :: (encodeStandard bytes ++ [':']))).bind _ = _
  rw [stripPrefix_eq_some.mpr rfl, Option.bind_some]
  show (splitOnce ':' (encodeStandard bytes ++ [':'])).bind _ = _
  rw [splitOnce_append hcolon, Option.bind_some]
  exact decodeStandard_encodeStandard bytes

end Headers

/-! ## Keys that are published -/

/-- What the signature crates promise: a key verifies its own signatures, which are as long as
they should be, and is read back from what it is published as. -/
structure SignatureCrates.Faithful (C : SignatureCrates) : Prop where
  ed25519_length : ∀ key payload, (C.ed25519Sign key payload).length = 64
  ed25519_verify : ∀ key payload,
    C.ed25519Verify (C.ed25519Public key) payload (C.ed25519Sign key payload) = true
  ed25519_bytes : ∀ key, (C.ed25519ToBytes key).length = 32 ∧
    C.ed25519OfBytes (C.ed25519ToBytes key) = .ok key
  p256_verify : ∀ key payload,
    C.p256Verify (C.p256Public key) payload (C.p256Sign key payload) = true
  p256_point : ∀ key, ∃ x y, C.p256Coordinates key = (some x, some y) ∧ x.length = 32 ∧
    y.length = 32 ∧ C.p256OfSec1 (0x04 :: (x ++ y)) = .ok key

theorem decodeBase64_encodeUrlSafe {bytes : Bytes} (h : bytes ≠ []) :
    decodeBase64 (encodeUrlSafe bytes) = some bytes := by
  have hblank : ∀ c ∈ encodeUrlSafe bytes, isWhitespace c = false := by
    intro c hc
    have := isBase64_bounds (mem_encodeUrlSafe hc)
    exact isWhitespace_printable (by omega) (by omega)
  have hpad : (encodeUrlSafe bytes).rdropWhile (· == '=') = encodeUrlSafe bytes := by
    refine List.rdropWhile_eq_self_iff.mpr fun hne he => ?_
    have hmem := mem_encodeUrlSafe (List.getLast_mem hne)
    rw [beq_iff_eq.mp he] at hmem
    cases hmem
  have htrimmed : trimmed (encodeUrlSafe bytes) = encodeUrlSafe bytes :=
    strip_eq_self_of_forall hblank
  rw [decodeBase64, htrimmed, if_neg (encodeUrlSafe_ne_nil h), hpad,
    decodeUrlSafe_encodeUrlSafe, Option.some_or]

section Keys

variable {C : SignatureCrates}

theorem coordinate_encodeUrlSafe {kid : Chars} {bytes : Bytes} {name : String} (h : bytes ≠ []) :
    PublicKey.coordinate kid (some (encodeUrlSafe bytes)) name = .ok bytes := by
  rw [PublicKey.coordinate, Option.bind_some, decodeBase64_encodeUrlSafe h]

/-- **A key is read back from its JWK.** -/
theorem fromJwk_jwk (hC : C.Faithful) (key : PublicKey C) (kid : Chars) :
    PublicKey.fromJwk C (key.jwk kid) = .ok key := by
  cases key with
  | ed25519 key =>
      obtain ⟨hlength, hread⟩ := hC.ed25519_bytes key
      have hne : C.ed25519ToBytes key ≠ [] := by
        intro he
        rw [he] at hlength
        cases hlength
      show (PublicKey.coordinate kid (some (encodeUrlSafe _)) "x").bind _ = _
      rw [coordinate_encodeUrlSafe hne]
      show ed25519PublicKey C kid _ = _
      rw [ed25519PublicKey, if_neg (not_not_intro hlength), hread]
  | p256 key =>
      obtain ⟨x, y, hpoint, hx, hy, hread⟩ := hC.p256_point key
      have hne {z : Bytes} (hz : z.length = 32) : z ≠ [] := by
        rintro rfl
        cases hz
      have hcoordinates : PublicKey.coordinate kid ((C.p256Coordinates key).1.map encodeUrlSafe) "x" =
            .ok x ∧
          PublicKey.coordinate kid ((C.p256Coordinates key).2.map encodeUrlSafe) "y" = .ok y := by
        rw [hpoint, Option.map_some, Option.map_some, coordinate_encodeUrlSafe (hne hx),
          coordinate_encodeUrlSafe (hne hy)]
        exact ⟨rfl, rfl⟩
      refine bind_eq_ok.mpr ⟨x, hcoordinates.1, bind_eq_ok.mpr ⟨y, hcoordinates.2, ?_⟩⟩
      rw [hread]

/-- A key under its id, as the verifier keeps it. -/
def Key.entry (key : Key C) : Chars × PublicKey C := (key.kid, key.secret.publicKey)

theorem usableKeys_publicJwks (hC : C.Faithful) (keys : List (Key C)) :
    VerifyingKeyring.usableKeys C (keys.map fun key => key.secret.publicKey.jwk key.kid) =
      .ok (keys.map Key.entry) := by
  induction keys with
  | nil => rfl
  | cons key keys ih =>
      have hkid : (key.secret.publicKey.jwk key.kid).kid = key.kid := by
        cases key.secret.publicKey <;> rfl
      rw [List.map_cons, VerifyingKeyring.usableKeys, fromJwk_jwk hC, ih, hkid]
      rfl

theorem fromEntries_ok {entries : List (Chars × PublicKey C)}
    (hnamed : ∀ e ∈ entries, trimmed e.1 ≠ []) (hdistinct : (entries.map Prod.fst).Nodup) :
    VerifyingKeyring.fromEntries entries = .ok ⟨entries, hnamed, hdistinct⟩ := by
  have hok : VerifyingKeyring.checkKids [] entries = .ok () :=
    VerifyingKeyring.checkKids_ok.mpr ⟨fun e he => ⟨hnamed e he, List.not_mem_nil⟩, hdistinct⟩
  unfold VerifyingKeyring.fromEntries
  split
  · rfl
  · next h => cases hok.symm.trans h

/-- **What a keyring publishes is what the verifier has.** -/
theorem fromJwks_publicJwks (hC : C.Faithful) {ring : SigningKeyring C}
    {readJwks : Chars → Except String (List SigningKeyDescriptor)} {json : Chars}
    (hjson : readJwks json = .ok ring.publicJwks) :
    ∃ verifying, VerifyingKeyring.fromJwks C readJwks json = .ok verifying ∧
      verifying.keys = (ring.active :: ring.previous).map Key.entry := by
  have hnamed : ∀ e ∈ (ring.active :: ring.previous).map Key.entry, trimmed e.1 ≠ [] := by
    intro e he
    obtain ⟨key, -, rfl⟩ := List.mem_map.mp he
    exact key.named
  have hdistinct : (((ring.active :: ring.previous).map Key.entry).map Prod.fst).Nodup := by
    rw [List.map_map]
    exact ring.distinct
  refine ⟨⟨_, hnamed, hdistinct⟩, ?_, rfl⟩
  rw [VerifyingKeyring.fromJwks, hjson]
  show (VerifyingKeyring.usableKeys C ring.publicJwks).bind _ = _
  rw [SigningKeyring.publicJwks, usableKeys_publicJwks hC]
  exact fromEntries_ok hnamed hdistinct

theorem PrivateKey.verify_sign (hC : C.Faithful) (secret : PrivateKey C) (payload : Bytes) :
    secret.publicKey.verify payload (secret.sign payload) = true := by
  cases secret with
  | ed25519 key =>
      exact Bool.and_eq_true_iff.mpr
        ⟨beq_iff_eq.mpr (hC.ed25519_length key payload), hC.ed25519_verify key payload⟩
  | p256 key => exact hC.p256_verify key payload

end Keys

/-! ## What a reader of parameters can find -/

section Found

variable {parsed params : SignatureParams}

/-- A parameter leaves the names as they are, and the id too unless it gives one. -/
theorem set_eq_ok {text : Chars} (h : parsed.set text = .ok params) :
    params.covered = parsed.covered ∧
      (params.keyid = parsed.keyid ∨ text = "keyid=".toList ++ quote params.keyid) := by
  unfold SignatureParams.set at h
  generalize hsplit : (splitOnce '=' text).getD (text, "?1".toList) = p at h
  obtain ⟨name, value⟩ := p
  simp only at h
  split at h
  · obtain ⟨n, -, hn⟩ := bind_eq_ok.mp h
    obtain rfl := Except.ok.inj hn
    exact ⟨rfl, Or.inl rfl⟩
  split at h
  · obtain ⟨n, -, hn⟩ := bind_eq_ok.mp h
    obtain rfl := Except.ok.inj hn
    exact ⟨rfl, Or.inl rfl⟩
  split at h
  · next hname =>
      obtain ⟨kid, hkid, hn⟩ := bind_eq_ok.mp h
      obtain rfl := Except.ok.inj hn
      refine ⟨rfl, Or.inr ?_⟩
      have hvalue : value = quote kid := by
        unfold SignatureParams.stringParam at hkid
        split at hkid
        · next s hs => exact Except.ok.inj hkid ▸ unquote_eq_some.mp hs
        · cases hkid
      cases honce : splitOnce '=' text with
      | none =>
          -- without a value there are no quotes
          rw [honce] at hsplit
          obtain ⟨-, hv⟩ := Prod.mk.inj hsplit
          rw [← hv] at hvalue
          cases hvalue
      | some q =>
          rw [honce, Option.getD_some] at hsplit
          subst hsplit
          rw [(splitOnce_eq_some honce).1, hname, hvalue]
          rfl
  split at h
  · obtain ⟨n, -, hn⟩ := bind_eq_ok.mp h
    obtain rfl := Except.ok.inj hn
    exact ⟨rfl, Or.inl rfl⟩
  · obtain rfl := Except.ok.inj h
    exact ⟨rfl, Or.inl rfl⟩

theorem foldlM_set_eq_ok {texts : List Chars} :
    ∀ {parsed : SignatureParams}, texts.foldlM SignatureParams.set parsed = .ok params →
      params.covered = parsed.covered ∧
        (params.keyid = parsed.keyid ∨ ("keyid=".toList ++ quote params.keyid) ∈ texts) := by
  induction texts with
  | nil =>
      intro parsed h
      obtain rfl := Except.ok.inj h
      exact ⟨rfl, Or.inl rfl⟩
  | cons text texts ih =>
      intro parsed h
      rw [List.foldlM_cons] at h
      obtain ⟨parsed', hset, hrest⟩ := bind_eq_ok.mp h
      obtain ⟨hcovered, hkeyid⟩ := ih hrest
      obtain ⟨hcovered', hkeyid'⟩ := set_eq_ok hset
      refine ⟨hcovered.trans hcovered', ?_⟩
      rcases hkeyid with hkeyid | hkeyid
      · rcases hkeyid' with hkeyid' | rfl
        · exact Or.inl (hkeyid.trans hkeyid')
        · exact Or.inr (List.mem_cons.mpr (Or.inl (by rw [hkeyid])))
      · exact Or.inr (List.mem_cons_of_mem _ hkeyid)

theorem mapM_coveredName_eq_ok {items : List Chars} : ∀ {covered : List Chars},
    items.mapM coveredName = .ok covered → items = covered.map quote := by
  induction items with
  | nil =>
      intro covered h
      obtain rfl := Except.ok.inj h
      rfl
  | cons item items ih =>
      intro covered h
      rw [List.mapM_cons] at h
      obtain ⟨name, hname, h⟩ := bind_eq_ok.mp h
      obtain ⟨names, hnames, h⟩ := bind_eq_ok.mp h
      obtain rfl := Except.ok.inj h
      rw [List.map_cons, ih hnames]
      unfold coveredName at hname
      split at hname
      · next s hs =>
          obtain rfl := Except.ok.inj hname
          rw [unquote_eq_some.mp hs]
      · cases hname

/-- Parameters that are read: names between the brackets, apart at white space, and the id
between two semicolons behind them. -/
theorem parseSignatureParams_eq_ok {raw : Chars} (h : parseSignatureParams raw = .ok params) :
    ∃ list texts, trimmed raw = '(' :: list ++ ')' :: texts ∧
      (∀ name ∈ params.covered, (∀ c ∈ name, isWhitespace c = false) ∧ ')' ∉ name) ∧
      ∃ text ∈ texts.splitOn ';', trimmed text = "keyid=".toList ++ quote params.keyid := by
  unfold parseSignatureParams at h
  split at h
  · cases h
  · next rest hprefix =>
      split at h
      · cases h
      · next list texts honce =>
          obtain ⟨covered, hcovered, h⟩ := bind_eq_ok.mp h
          obtain ⟨parsed, hparsed, h⟩ := bind_eq_ok.mp h
          obtain ⟨hsame, hkeyid⟩ := foldlM_set_eq_ok hparsed
          split at h
          · cases h
          · next hne =>
              obtain rfl := Except.ok.inj h
              obtain ⟨rfl, hclose⟩ := splitOnce_eq_some honce
              refine ⟨list, texts, stripPrefix_eq_some.mp hprefix, ?_, ?_⟩
              · intro name hname
                rw [hsame] at hname
                have hword : quote name ∈ words isWhitespace list := by
                  rw [mapM_coveredName_eq_ok hcovered]
                  exact List.mem_map_of_mem hname
                obtain ⟨hpartOf, hblank⟩ := mem_words hword
                have hmem {c : Char} (hc : c ∈ name) : c ∈ quote name :=
                  List.mem_append_left _ (List.mem_cons_of_mem _ hc)
                exact ⟨fun c hc => hblank c (hmem hc), fun hc => hclose (hpartOf.subset (hmem hc))⟩
              · have hmem := hkeyid.resolve_left hne
                obtain ⟨text, htext, heq⟩ := List.mem_map.mp (List.mem_of_mem_filter hmem)
                exact ⟨text, htext, heq⟩

end Found

theorem mapM_readMember_eq_ok {members : List Chars} : ∀ {inputs : List (Chars × Chars)},
    members.mapM readMember = .ok inputs → ∀ input ∈ inputs, ∃ m ∈ members, input.2 <:+: m := by
  induction members with
  | nil =>
      intro inputs h input hinput
      obtain rfl := Except.ok.inj h
      cases hinput
  | cons m members ih =>
      intro inputs h input hinput
      rw [List.mapM_cons] at h
      obtain ⟨first, hfirst, h⟩ := bind_eq_ok.mp h
      obtain ⟨rest, hrest, h⟩ := bind_eq_ok.mp h
      obtain rfl := Except.ok.inj h
      rcases List.mem_cons.mp hinput with rfl | hinput
      · refine ⟨m, List.mem_cons_self, ?_⟩
        unfold readMember at hfirst
        split at hfirst
        · next key value honce =>
            obtain rfl := Except.ok.inj hfirst
            obtain ⟨rfl, -⟩ := splitOnce_eq_some honce
            exact (strip_isInfix _ value).trans ⟨key ++ ['='], [], by simp⟩
        · cases hfirst
      · obtain ⟨m', hm', hpartOf⟩ := ih hrest input hinput
        exact ⟨m', List.mem_cons_of_mem _ hm', hpartOf⟩

/-- The values of a dictionary are parts of its members. -/
theorem parseDictionary_eq_ok {header : Chars} {inputs : List (Chars × Chars)}
    (h : parseDictionary header = .ok inputs) :
    ∃ members, splitMembers {} [] header = some members ∧
      ∀ input ∈ inputs, ∃ m ∈ members, input.2 <:+: m := by
  unfold parseDictionary at h
  split at h
  · cases h
  · next members hmembers =>
      refine ⟨members, hmembers, fun input hinput => ?_⟩
      obtain ⟨m, hm, hpartOf⟩ := mapM_readMember_eq_ok h input hinput
      obtain ⟨m', hm', rfl⟩ := List.mem_map.mp (List.mem_of_mem_filter hm)
      exact ⟨m', hm', hpartOf.trans (strip_isInfix _ m')⟩

/-! ## Round trips -/

/-- The names and the id that come through: no white space and no closing bracket in a name,
no semicolon in the id, and the scan of the names and the id, each in quotes, ends neither at
a comma nor with something open. -/
structure RoundTrips (covered : List Chars) (kid : Chars) : Prop where
  names : ∀ name ∈ covered, (∀ c ∈ name, isWhitespace c = false) ∧ ')' ∉ name
  keyid : ';' ∉ kid
  member : (({} : Lexer).reads (quotedList covered ++ quote kid)).any Lexer.closed = true

section Headers

variable {covered : List Chars} {kid : Chars} {created : Int64} {expires : Option Int64}

/-- The list of the names is never taken apart. -/
theorem reads_quotedList (hnames : ∀ name ∈ covered, ')' ∉ name) :
    ∃ l, ({} : Lexer).reads (quotedList covered) = some l ∧ l.escaped = false := by
  have hopen : ({} : Lexer).reads ['('] = some { depth := 1 } := by decide
  obtain ⟨l, hl, hdepth⟩ := Lexer.reads_inside (l := { depth := 1 })
    (quotedList_no_close hnames) Nat.one_pos
  have hsplits : ¬ l.splits ')' = true := by
    intro h
    cases (Lexer.splits_eq_true.mp h).1
  refine ⟨l.next ')', ?_, Lexer.next_escaped (by decide)⟩
  show ({} : Lexer).reads (['('] ++ [' '].intercalate (covered.map quote) ++ [')']) = _
  rw [Lexer.reads_append, Lexer.reads_append, hopen, Option.bind_some, hl, Option.bind_some,
    Lexer.reads, if_neg hsplits]
  rfl

/-- The scan can only end at a comma of the id. -/
theorem reads_signatureParams_eq_none (hnames : ∀ name ∈ covered, ')' ∉ name)
    (h : ({} : Lexer).reads (signatureLabel ++ '=' :: signatureParams covered created kid expires) =
      none) :
    ∃ k₁ k₂ l, kid = k₁ ++ ',' :: k₂ ∧ ({} : Lexer).reads (signatureLabel ++ '=' ::
      (quotedList covered ++ (";created=".toList ++ renderInt created ++ ";keyid=".toList ++
        '"' :: k₁))) = some l ∧ l.splits ',' = true := by
  obtain ⟨l, hlist, -⟩ := reads_quotedList hnames
  have hquote (l : Lexer) : ¬ l.splits '"' = true := by
    intro hsplits
    cases (Lexer.splits_eq_true.mp hsplits).1
  rw [reads_signatureParams, Lexer.reads_append, hlist, Option.bind_some] at h
  have hkid : (l.next '"').reads kid = none := by
    cases hread : (l.next '"').reads kid with
    | none => rfl
    | some l' =>
        have hall : l.reads (quote kid) = some (l'.next '"') := by
          show l.reads ('"' :: (kid ++ ['"'])) = _
          rw [Lexer.reads, if_neg (hquote l), Lexer.reads_append, hread, Option.bind_some,
            Lexer.reads, if_neg (hquote l')]
          rfl
        cases h.symm.trans hall
  obtain ⟨k₁, k₂, l', rfl, hread, hsplits⟩ := Lexer.reads_eq_none hkid
  refine ⟨k₁, k₂, l', rfl, ?_, hsplits⟩
  rw [reads_names, Lexer.reads_append, hlist, Option.bind_some, Lexer.reads, if_neg (hquote l)]
  exact hread

/-- A member with an id is the member of the id: a part of it is too short. -/
theorem member_of_keyid (hnames : ∀ name ∈ covered, ')' ∉ name) (hkid : ';' ∉ kid)
    {inputs : List (Chars × Chars)} {input : Chars × Chars} {params : SignatureParams}
    (hinputs : parseDictionary (signatureLabel ++ '=' :: signatureParams covered created kid expires) =
      .ok inputs) (hinput : input ∈ inputs) (hparsed : parseSignatureParams input.2 = .ok params)
    (hkeyid : params.keyid = kid) :
    (({} : Lexer).reads (quotedList covered ++ quote kid)).any Lexer.closed = true := by
  obtain ⟨members, hmembers, hparts⟩ := parseDictionary_eq_ok hinputs
  cases hreads : ({} : Lexer).reads
      (signatureLabel ++ '=' :: signatureParams covered created kid expires) with
  | some l =>
      rw [splitMembers_of_reads hreads] at hmembers
      rw [← reads_signatureParams created expires, hreads]
      split at hmembers
      · next hclosed => exact hclosed
      · cases hmembers
  | none =>
      exfalso
      obtain ⟨m, hm, hpart⟩ := hparts input hinput
      obtain ⟨list, texts, hraw, -, text, htext, heq⟩ := parseSignatureParams_eq_ok hparsed
      rw [hkeyid] at heq
      -- the text of the id, without a semicolon, stands behind a closing bracket of the member
      have hbehind : ')' :: texts <:+: trimmed input.2 := ⟨'(' :: list, [], by simp [hraw]⟩
      have hpart : ')' :: texts <:+: m := (hbehind.trans (strip_isInfix _ _)).trans hpart
      have htexts : "keyid=".toList ++ quote kid <:+: texts :=
        (heq ▸ strip_isInfix _ _ : "keyid=".toList ++ quote kid <:+: text).trans (mem_splitOn htext).1
      have hsemicolon : ';' ∉ "keyid=".toList ++ quote kid := by
        simp [quote, hkid]
      have hnumber {n : Int64} {name : Chars} (hname : '"' ∉ name) :
          ¬ "keyid=".toList ++ quote kid <:+: name ++ renderInt n := by
        intro h
        have hquote : '"' ∈ name ++ renderInt n := h.subset (by simp [quote])
        rcases List.mem_append.mp hquote with hquote | hquote
        · exact hname hquote
        · have := renderInt_bounds hquote
          revert this
          decide
      have hlength : ("keyid=".toList ++ quote kid).length = kid.length + 8 := by
        simp [length_quote]
      obtain ⟨k₁, k₂, l, rfl, hread, hsplits⟩ := reads_signatureParams_eq_none hnames hreads
      have hshape : signatureLabel ++ '=' :: signatureParams covered created (k₁ ++ ',' :: k₂) expires =
          signatureLabel ++ '=' :: (quotedList covered ++ (";created=".toList ++
            renderInt created ++ ";keyid=".toList ++ '"' :: k₁)) ++ ',' :: (k₂ ++ '"' ::
              expires.elim [] fun expires => ";expires=".toList ++ renderInt expires) := by
        simp [signatureParams, quote]
      rw [hshape, splitMembers_reads hread, splitMembers, if_pos hsplits] at hmembers
      obtain ⟨rest, hrest, rfl⟩ := Option.map_eq_some_iff.mp hmembers
      rcases List.mem_cons.mp hm with rfl | hm
      · -- before the comma, behind the bracket: the number, or the first half of the id
        have hfirst : signatureLabel ++ '=' :: (quotedList covered ++ (";created=".toList ++
            renderInt created ++ ";keyid=".toList ++ '"' :: k₁)) =
            (signatureLabel ++ '=' :: '(' :: [' '].intercalate (covered.map quote)) ++
              ')' :: ([] ++ ';' :: ("created=".toList ++ renderInt created ++
                ';' :: ("keyid=\"".toList ++ k₁))) := by
          simp [quotedList]
        have hopen : ')' ∉ signatureLabel ++ '=' :: '(' :: [' '].intercalate (covered.map quote) := by
          simp [signatureLabel, quotedList_no_close hnames]
        rw [List.nil_append, hfirst] at hpart
        have hshort := htexts.trans (infix_of_first hpart hopen)
        rcases infix_of_notMem hshort hsemicolon with h | h
        · have := h.length_le
          simp at this
        · rcases infix_of_notMem h hsemicolon with h | h
          · exact hnumber (by decide) h
          · have := h.length_le
            simp [quote] at this
      · -- behind the comma: the second half of the id, or the other number
        have hshort := (htexts.trans (List.suffix_cons _ _).isInfix).trans
          (hpart.trans (mem_splitMembers hrest m hm))
        have hhalf : ¬ "keyid=".toList ++ quote (k₁ ++ ',' :: k₂) <:+: k₂ ++ ['"'] := by
          intro h
          have := h.length_le
          rw [hlength] at this
          simp at this
          omega
        cases expires with
        | none => exact hhalf hshort
        | some n =>
            have hsplit : [] ++ (k₂ ++ '"' :: (";expires=".toList ++ renderInt n)) =
                (k₂ ++ ['"']) ++ ';' :: ("expires=".toList ++ renderInt n) := by
              simp
            rw [Option.elim_some, hsplit] at hshort
            rcases infix_of_notMem hshort hsemicolon with h | h
            · exact hhalf h
            · exact hnumber (by decide) h

end Headers

section Accepting

variable {components : MessageComponents} {covered : List Chars} {created now : Int64}

theorem signatureBase_of_contains (h : ∀ name ∈ covered, components.contains name = true)
    (params : Chars) : ∃ base, signatureBase components covered params = .ok base := by
  have hlines : ∃ lines, componentLines components covered = .ok lines := by
    induction covered with
    | nil => exact ⟨[], rfl⟩
    | cons name covered ih =>
        obtain ⟨hname, hcovered⟩ := List.forall_mem_cons.mp h
        obtain ⟨value, hvalue⟩ := Option.isSome_iff_exists.mp hname
        obtain ⟨lines, hlines⟩ := ih hcovered
        refine ⟨quote name ++ ": ".toList ++ value ++ '\n' :: lines, ?_⟩
        simp only [componentLines, hvalue, hlines]
        rfl
  obtain ⟨lines, hlines⟩ := hlines
  refine ⟨lines ++ "\"@signature-params\": ".toList ++ params, ?_⟩
  rw [signatureBase, hlines]
  rfl

/-- Where the difference is in range, its absolute value is. -/
theorem toInt_abs_sub (h : (now.toInt - created.toInt).natAbs < 2 ^ 63) :
    (now - created).abs.toInt = ((now.toInt - created.toInt).natAbs : Int) := by
  have hsub : (now - created).toInt = now.toInt - created.toInt := by
    rw [Int64.toInt_sub]
    exact Int.bmod_eq_of_le (by omega) (by omega)
  have hmin : (now - created).toBitVec ≠ BitVec.intMin 64 := by
    intro he
    have hlow : (now - created).toInt = -2 ^ 63 := congrArg BitVec.toInt he
    omega
  rw [← hsub]
  exact BitVec.toInt_abs_eq_natAbs_of_ne_intMin hmin

theorem checkCreated_eq_ok (h : (now.toInt - created.toInt).natAbs < 2 ^ 63) :
    checkCreated (some created) now = .ok () ↔ (now.toInt - created.toInt).natAbs ≤ 300 := by
  have hfar : (now - created).abs > SignatureError.maxSkewSeconds ↔
      300 < (now.toInt - created.toInt).natAbs := by
    have hmax : SignatureError.maxSkewSeconds.toInt = 300 := by decide
    rw [gt_iff_lt, Int64.lt_iff_toInt_lt, toInt_abs_sub h, hmax]
    omega
  rw [checkCreated]
  split
  · next h => exact iff_of_false (fun he => nomatch he) (by have := hfar.mp h; omega)
  · next h => exact iff_of_true rfl (by rw [hfar] at h; omega)

theorem checkCreated_of_near (h : (now.toInt - created.toInt).natAbs ≤ 300) :
    checkCreated (some created) now = .ok () :=
  (checkCreated_eq_ok (by omega)).mpr h

theorem checkExpires_of_later {expires : Option Int64} (h : ∀ e ∈ expires, now ≤ e) :
    checkExpires expires now = .ok () := by
  cases expires with
  | none => rfl
  | some e => exact if_neg (Int64.not_lt.mpr (h e rfl))

end Accepting

section Own

variable {C : SignatureCrates} {ring : SigningKeyring C}
  {readJwks : Chars → Except String (List SigningKeyDescriptor)} {json : Chars}
  {components : MessageComponents} {covered : List Chars} {created now : Int64}
  {expires : Option Int64}

theorem SigningKeyring.activeKid_ne_nil : ring.activeKid ≠ [] := by
  intro h
  refine ring.active.named ?_
  rw [show ring.active.kid = [] from h]
  rfl

/-- What comes through is one member. -/
theorem parseDictionary_signatureParams {kid : Chars} (hround : RoundTrips covered kid) :
    parseDictionary (signatureLabel ++ '=' :: signatureParams covered created kid expires) =
      .ok [(signatureLabel, signatureParams covered created kid expires)] := by
  obtain ⟨l, hreads, hclosed⟩ := (Option.any_eq_true _ _).mp hround.member
  rw [← reads_signatureParams created expires] at hreads
  exact parseDictionary_label hreads hclosed trimmed_signatureParams (List.cons_ne_nil _ _)

section Verified

variable {verifying : VerifyingKeyring C} {kid base : Chars} {key : PublicKey C} {bytes : Bytes}
  {required : List Chars}

/-- What comes through the parsers is accepted, if its signature verifies. -/
theorem accepted_of_roundTrips (hround : RoundTrips covered kid) (hne : kid ≠ [])
    (hcreated : (now.toInt - created.toInt).natAbs ≤ 300) (hexpires : ∀ e ∈ expires, now ≤ e)
    (hfound : verifying.findKey kid = .ok key)
    (hbase : signatureBase components covered (signatureParams covered created kid expires) =
      .ok base) (hverified : key.verify (utf8 base) bytes = true)
    (hrequired : ∀ name ∈ required, name ∈ covered) :
    Accepted verifying components (signatureParams covered created kid expires)
      (some (':' :: encodeStandard bytes ++ [':'])) required now
      { covered, created := some created, expires, keyid := kid } key bytes base where
  parsed := parseSignatureParams_signatureParams hround.names hround.keyid hne
  covers := checkCoverage_eq_ok.mpr hrequired
  recent := checkCreated_of_near hcreated
  unexpired := checkExpires_of_later hexpires
  found := hfound
  algorithm := rfl
  read := by rw [readSignature, Option.bind_some, parseByteSequence_encodeStandard]
  built := hbase
  verified := hverified

theorem verifyMessage_of_roundTrips (hround : RoundTrips covered kid) (hne : kid ≠ [])
    (hcreated : (now.toInt - created.toInt).natAbs ≤ 300) (hexpires : ∀ e ∈ expires, now ≤ e)
    (hfound : verifying.findKey kid = .ok key)
    (hbase : signatureBase components covered (signatureParams covered created kid expires) =
      .ok base) (hverified : key.verify (utf8 base) bytes = true)
    (hrequired : ∀ name ∈ required, name ∈ covered) :
    verifying.verifyMessage components
      (signatureLabel ++ '=' :: signatureParams covered created kid expires)
      (signatureLabel ++ "=:".toList ++ encodeStandard bytes ++ [':']) required now = .ok kid := by
  have haccepted := verifyOne_eq_ok.mpr ⟨_, _, _, _, accepted_of_roundTrips hround hne hcreated
    hexpires hfound hbase hverified hrequired, rfl⟩
  have hsame : (([(signatureLabel, ':' :: encodeStandard bytes ++ [':'])].find?
      (·.1 = signatureLabel)).map Prod.snd) = some (':' :: encodeStandard bytes ++ [':']) := rfl
  refine bind_eq_ok.mpr ⟨_, parseDictionary_signatureParams hround,
    bind_eq_ok.mpr ⟨_, parseDictionary_signature _, ?_⟩⟩
  rw [if_neg (by simp), VerifyingKeyring.firstAccepted, hsame, haccepted]

end Verified

/-- **A keyring's message is accepted under its active id** if and only if the names and the
id come through. -/
theorem own_message_accepted_iff (hC : C.Faithful) (hjson : readJwks json = .ok ring.publicJwks)
    (hcovered : ∀ name ∈ covered, components.contains name = true)
    (hcreated : (now.toInt - created.toInt).natAbs ≤ 300) (hexpires : ∀ e ∈ expires, now ≤ e) :
    (∀ required : List Chars, (∀ name ∈ required, name ∈ covered) →
      ∃ verifying signed, VerifyingKeyring.fromJwks C readJwks json = .ok verifying ∧
        ring.signMessageWithParams components covered created expires = .ok signed ∧
        verifying.verifyMessage components signed.signatureInput signed.signature required now =
          .ok ring.activeKid) ↔ RoundTrips covered ring.activeKid := by
  constructor
  · intro h
    obtain ⟨verifying, signed, -, hsigned, haccepted⟩ := h covered fun _ h => h
    obtain ⟨base, hbase, hsigned⟩ := bind_eq_ok.mp hsigned
    obtain rfl := Except.ok.inj hsigned
    obtain ⟨inputs, signatures, hinputs, -, input, hinput, hone⟩ := verifyMessage_ok haccepted
    obtain ⟨params, key, bytes, base', haccepted, hkeyid⟩ := verifyOne_eq_ok.mp hone
    obtain ⟨-, texts, -, hnames, text, htext, heq⟩ := parseSignatureParams_eq_ok haccepted.parsed
    have hnames : ∀ name ∈ covered, (∀ c ∈ name, isWhitespace c = false) ∧ ')' ∉ name :=
      fun name hname => hnames name (checkCoverage_eq_ok.mp haccepted.covers name hname)
    have hkid : ';' ∉ ring.activeKid := by
      intro hmem
      have hpart : ';' ∈ trimmed text := by
        rw [heq, hkeyid]
        exact List.mem_append_right _ (List.mem_append_left _ (List.mem_cons_of_mem _ hmem))
      exact (mem_splitOn htext).2 (mem_of_mem_strip hpart)
    exact ⟨hnames, hkid, member_of_keyid (fun name hname => (hnames name hname).2) hkid hinputs
      hinput haccepted.parsed hkeyid⟩
  · intro hround required hrequired
    obtain ⟨verifying, hverifying, hkeys⟩ := fromJwks_publicJwks hC hjson
    obtain ⟨base, hbase⟩ := signatureBase_of_contains hcovered
      (signatureParams covered created ring.activeKid expires)
    have hsigned : ring.signMessageWithParams components covered created expires =
        .ok ⟨signatureLabel ++ '=' :: signatureParams covered created ring.activeKid expires,
          signatureLabel ++ "=:".toList ++ encodeStandard (ring.active.secret.sign (utf8 base)) ++
            [':']⟩ :=
      bind_eq_ok.mpr ⟨base, hbase, rfl⟩
    have hfound : verifying.findKey ring.activeKid = .ok ring.active.secret.publicKey := by
      rw [VerifyingKeyring.findKey, hkeys, List.map_cons, List.find?_cons_of_pos (by
        simp [Key.entry, SigningKeyring.activeKid])]
      rfl
    exact ⟨verifying, _, hverifying, hsigned, verifyMessage_of_roundTrips hround
      ring.activeKid_ne_nil hcreated hexpires hfound hbase
      (ring.active.secret.verify_sign hC (utf8 base)) hrequired⟩

end Own

/-! ## An agent's message -/

namespace AgentMessage

/-- The public key of the agent's seed. -/
def publicKey : Bytes :=
  [0x03, 0xa1, 0x07, 0xbf, 0xf3, 0xce, 0x10, 0xbe, 0x1d, 0x70, 0xdd, 0x18, 0xe7, 0x4b,
   0xc0, 0x99, 0x67, 0xe4, 0xd6, 0x30, 0x9b, 0xa5, 0x0d, 0x5f, 0x1d, 0xdc, 0x86, 0x64,
   0x12, 0x55, 0x31, 0xb8]

theorem publicKey_length : publicKey.length = 32 := rfl

def covered : List Chars := ["@method".toList, "@path".toList]

def components : MessageComponents :=
  (MessageComponents.new.insert "@method".toList "POST".toList).insert "@path".toList
    "/api/v1/ucp/cart".toList

def params (kid : String) : Chars :=
  signatureParams covered 1760000000 kid.toList (some 1760000060)

def base (kid : String) : Chars :=
  "\"@method\": POST\n\"@path\": /api/v1/ucp/cart\n".toList ++
    "\"@signature-params\": ".toList ++ params kid

/-- What the agent's key signs the two texts with. -/
def signatureOf (payload : Bytes) : Bytes :=
  if payload = utf8 (base "agent-1") then
    [0xea, 0xa4, 0x14, 0x45, 0xea, 0x73, 0xe0, 0xf5, 0x2e, 0x38, 0xb8, 0xa6, 0x96, 0x47,
     0xf0, 0x41, 0x3a, 0x0a, 0xa0, 0xf7, 0x78, 0x45, 0xae, 0xd1, 0x6f, 0x31, 0x28, 0xf8,
     0x62, 0x21, 0xb9, 0x11, 0xa3, 0x91, 0x1e, 0x1b, 0x5a, 0xec, 0x77, 0x36, 0x83, 0x7d,
     0x7d, 0xd3, 0x99, 0x1e, 0x08, 0xea, 0xb1, 0xdc, 0xd6, 0xa3, 0x00, 0x55, 0x2f, 0x22,
     0x88, 0xc0, 0x3d, 0x0c, 0xd9, 0x04, 0x65, 0x05]
  else if payload = utf8 (base "agent;1") then
    [0xca, 0x39, 0x70, 0x59, 0x12, 0x19, 0xbc, 0x7f, 0x49, 0xd5, 0xe3, 0x13, 0xcb, 0x03,
     0xa9, 0xae, 0xaf, 0x64, 0xf4, 0x15, 0x0a, 0x9d, 0x4c, 0xf7, 0x7d, 0xd4, 0x7e, 0x60,
     0x39, 0xb3, 0x49, 0x0b, 0x32, 0xe6, 0xd6, 0x54, 0x5b, 0xf1, 0xc4, 0x45, 0x31, 0xb1,
     0x60, 0x44, 0x8e, 0xcc, 0xb0, 0x78, 0x53, 0xe4, 0x9a, 0x58, 0x25, 0xf5, 0x3c, 0x1c,
     0x44, 0x84, 0x6d, 0x51, 0x79, 0xc8, 0x33, 0x07]
  else List.replicate 64 0

/-- The crates, as far as the agent's key and these texts go. -/
def crates : SignatureCrates where
  Ed25519Secret := Bytes
  Ed25519Public := { bytes : Bytes // bytes.length = 32 }
  ed25519OfSeed seed := seed
  ed25519Public _ := ⟨publicKey, publicKey_length⟩
  ed25519Sign _ payload := signatureOf payload
  ed25519Verify _ payload signature := signature == signatureOf payload
  ed25519ToBytes key := key.1
  ed25519OfBytes bytes := if h : bytes.length = 32 then .ok ⟨bytes, h⟩ else .error "signature error"
  P256Secret := Empty
  P256Public := Empty
  p256OfScalar _ := .error "signature error"
  p256Public := Empty.elim
  p256Sign := Empty.elim
  p256Verify := Empty.elim
  p256Coordinates := Empty.elim
  p256OfSec1 _ := .error "signature error"

theorem crates_faithful : crates.Faithful where
  ed25519_length _ payload := by
    show (signatureOf payload).length = 64
    unfold signatureOf
    split
    · rfl
    · split <;> rfl
  ed25519_verify _ payload := beq_self_eq_true (signatureOf payload)
  ed25519_bytes key := ⟨key.2, dif_pos key.2⟩
  p256_verify key := Empty.elim key
  p256_point key := Empty.elim key

def spec (kid : String) : KeySpec :=
  ⟨kid.toList, .edDsa, "AAECAwQFBgcICQoLDA0ODxAREhMUFRYXGBkaGxwdHh8".toList⟩

def jwks (kid : String) : Chars :=
  ("[\x7b\"kid\":\"" ++ kid ++ "\",\"kty\":\"OKP\",\"crv\":\"Ed25519\",\"alg\":\"EdDSA\"," ++
    "\"x\":\"A6EHv_POEL4dcN0Y50vAmWfk1jCbpQ1fHdyGZBJVMbg\",\"use\":\"sig\"\x7d]").toList

/-- The reader, as far as the agent's set goes. -/
def readJwks (kid : String) (json : Chars) : Except String (List SigningKeyDescriptor) :=
  if json = jwks kid then
    .ok [{ kid := kid.toList, kty := "OKP", crv := some "Ed25519", alg := "EdDSA"
           x := some "A6EHv_POEL4dcN0Y50vAmWfk1jCbpQ1fHdyGZBJVMbg".toList, y := none
           use_ := some "sig" }]
  else .error "expected value at line 1 column 1"

def ring (kid : String) (named : trimmed kid.toList ≠ []) : SigningKeyring crates :=
  ⟨⟨kid.toList, .ed25519 (List.range 32 |>.map UInt8.ofNat), named⟩, [], List.nodup_singleton _⟩

/-- The keyring of the agent's public key. -/
def verifying (kid : String) (named : trimmed kid.toList ≠ []) : VerifyingKeyring crates :=
  ⟨[(kid.toList, .ed25519 ⟨publicKey, publicKey_length⟩)], by simpa using named, List.nodup_singleton _⟩

theorem fromSpecs_spec (kid : String) (named : trimmed kid.toList ≠ []) :
    SigningKeyring.fromSpecs crates (spec kid) [] = .ok (ring kid named) := by
  have hsecret : decodeBase64 (spec kid).secret = some ((List.range 32).map UInt8.ofNat) := by
    show decodeBase64 "AAECAwQFBgcICQoLDA0ODxAREhMUFRYXGBkaGxwdHh8".toList = _
    decide +kernel
  have hkey : buildKey crates (spec kid) = .ok (ring kid named).active := by
    rw [buildKey, dif_neg (show trimmed (spec kid).kid ≠ [] from named), hsecret]
    rfl
  rw [SigningKeyring.fromSpecs, hkey]
  rfl

theorem readJwks_jwks (kid : String) (named : trimmed kid.toList ≠ []) :
    readJwks kid (jwks kid) = .ok (ring kid named).publicJwks := by
  have hx : encodeUrlSafe publicKey = "A6EHv_POEL4dcN0Y50vAmWfk1jCbpQ1fHdyGZBJVMbg".toList := by
    decide +kernel
  rw [readJwks, if_pos rfl, ← hx]
  rfl

theorem fromJwks_jwks (kid : String) (named : trimmed kid.toList ≠ []) :
    VerifyingKeyring.fromJwks crates (readJwks kid) (jwks kid) = .ok (verifying kid named) := by
  rw [VerifyingKeyring.fromJwks, readJwks_jwks kid named]
  show (VerifyingKeyring.usableKeys crates (ring kid named).publicJwks).bind _ = _
  rw [SigningKeyring.publicJwks, usableKeys_publicJwks crates_faithful]
  exact fromEntries_ok (verifying kid named).named (verifying kid named).distinct

theorem roundTrips_sample : RoundTrips covered "agent-1".toList where
  names name hname := by
    have hnames : covered.all fun name => name.all fun c => !isWhitespace c && c != ')' := by
      decide +kernel
    have hname := List.all_eq_true.mp (List.all_eq_true.mp hnames name hname)
    simp only [Bool.and_eq_true, Bool.not_eq_true', bne_iff_ne] at hname
    exact ⟨fun c hc => (hname c hc).1, fun hc => (hname _ hc).2 rfl⟩
  keyid := by decide
  member := by decide +kernel

theorem signatureBase_base (kid : String) :
    signatureBase components covered (params kid) = .ok (base kid) := by
  have hlines : componentLines components covered =
      .ok "\"@method\": POST\n\"@path\": /api/v1/ucp/cart\n".toList := by
    decide +kernel
  rw [signatureBase, hlines]
  rfl

theorem sign_ring (kid : String) (named : trimmed kid.toList ≠ []) :
    (ring kid named).signMessageWithParams components covered 1760000000 (some 1760000060) =
      .ok ⟨signatureLabel ++ '=' :: params kid,
        signatureLabel ++ "=:".toList ++ encodeStandard (signatureOf (utf8 (base kid))) ++ [':']⟩ :=
  bind_eq_ok.mpr ⟨base kid, signatureBase_base kid, rfl⟩

/-- The signature header of the message under the other id. -/
def signature : Chars :=
  ("sig1=:yjlwWRIZvH9J1eMTywOprq9k9BUKnUz3fdR+YDmzSQsy5tZUW/HERTGxYESOzLB4U+SaWCX1PBxEhG1Rec" ++
    "gzBw==:").toList

theorem signature_eq : signatureLabel ++ "=:".toList ++
    encodeStandard (signatureOf (utf8 (base "agent;1"))) ++ [':'] = signature := by
  have hother : utf8 (base "agent;1") ≠ utf8 (base "agent-1") := by
    intro h
    have hparams := List.append_cancel_left (utf8_injective h)
    simp [params, signatureParams, quote] at hparams
  rw [signatureOf, if_neg hother, if_pos rfl]
  decide +kernel

end AgentMessage

open AgentMessage in
theorem own_message_accepted_sample :
    ∃ verifying signed, VerifyingKeyring.fromJwks crates (readJwks "agent-1") (jwks "agent-1") =
        .ok verifying ∧
      (ring "agent-1" (by decide)).signMessageWithParams components covered 1760000000
        (some 1760000060) = .ok signed ∧
      verifying.verifyMessage components signed.signatureInput signed.signature covered
        1760000010 = .ok "agent-1".toList :=
  (own_message_accepted_iff crates_faithful (readJwks_jwks _ _) (by decide +kernel) (by decide)
    fun e he => Option.some.inj he ▸ (by decide)).mpr roundTrips_sample covered fun _ h => h

open AgentMessage in
/-- Behind a semicolon the id is cut off. -/
theorem semicolon_refused :
    crates.Faithful ∧
      SigningKeyring.fromSpecs crates (spec "agent;1") [] = .ok (ring "agent;1" (by decide)) ∧
      readJwks "agent;1" (jwks "agent;1") = .ok (ring "agent;1" (by decide)).publicJwks ∧
      VerifyingKeyring.fromJwks crates (readJwks "agent;1") (jwks "agent;1") =
        .ok (verifying "agent;1" (by decide)) ∧
      ∃ signed, (ring "agent;1" (by decide)).signMessageWithParams components covered 1760000000
          (some 1760000060) = .ok signed ∧
        (verifying "agent;1" (by decide)).verifyMessage components signed.signatureInput
          signed.signature covered 1760000010 =
            .error (.malformed "'keyid' must be a string") := by
  have hsigned := sign_ring "agent;1" (by decide)
  rw [signature_eq] at hsigned
  exact ⟨crates_faithful, fromSpecs_spec _ _, readJwks_jwks _ _, fromJwks_jwks _ _, _, hsigned,
    by decide +kernel⟩

end Orchestrator
