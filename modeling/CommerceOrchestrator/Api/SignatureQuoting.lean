/-
# `CommerceOrchestrator.Api.SignatureQuoting` — parameters that stand in strings

The reader of a member looks for the first closing bracket, and for semicolons behind it,
wherever they stand; and what it finds between quotes it takes as it is.  So a string is read
back if it has none of these characters and nothing to escape, and a note of the application
sets a parameter as soon as one stands in it between semicolons.
-/
import CommerceOrchestrator.Api.Dictionaries

namespace Orchestrator

open Effect Text

/-! ## What is written -/

inductive SignatureParam
  | created (at_ : Int64)
  | expires (at_ : Int64)
  | keyid (s : Chars)
  | alg (s : Chars)
  | nonce (s : Chars)
  | tag (s : Chars)
deriving DecidableEq

namespace SignatureParam

def name : SignatureParam → Chars
  | created _ => "created".toList
  | expires _ => "expires".toList
  | keyid _ => "keyid".toList
  | alg _ => "alg".toList
  | nonce _ => "nonce".toList
  | tag _ => "tag".toList

def value : SignatureParam → Chars
  | created n | expires n => renderInt n
  | keyid s | alg s | nonce s | tag s => quote (escape s)

def text (p : SignatureParam) : Chars := p.name ++ '=' :: p.value

/-- The text that means nothing to the reader. -/
def note? : SignatureParam → Option Chars
  | nonce s | tag s => some s
  | _ => none

/-- The text that means something to it. -/
def string? : SignatureParam → Option Chars
  | keyid s | alg s => some s
  | _ => none

end SignatureParam

/-- Covered names and parameters, each at most once, among them the id of a key. -/
structure SignatureInputMember where
  covered : List Chars
  params : List SignatureParam
  once : (params.map SignatureParam.name).Nodup
  keyed : ∃ kid, kid ≠ [] ∧ SignatureParam.keyid kid ∈ params

/-- What a parameter says, with `f` of what stands in its string. -/
def SignatureParams.given (f : Chars → Chars) (parsed : SignatureParams) :
    SignatureParam → SignatureParams
  | .created n => { parsed with created := some n }
  | .expires n => { parsed with expires := some n }
  | .keyid s => { parsed with keyid := f s }
  | .alg s => { parsed with alg := some (f s) }
  | .nonce _ | .tag _ => parsed

namespace SignatureInputMember

def raw (m : SignatureInputMember) : Chars :=
  quotedList (m.covered.map escape) ++ m.params.flatMap fun p => ';' :: p.text

/-- What the member says, with `f` of what stands in its strings. -/
def meaning (f : Chars → Chars) (m : SignatureInputMember) : SignatureParams :=
  m.params.foldl (SignatureParams.given f) { covered := m.covered.map f }

end SignatureInputMember

/-! ## What the reader makes of a note -/

/-- The pieces of a note that a semicolon of its own sets apart. -/
def innerPieces (s : Chars) : List Chars := ((quote (escape s)).splitOn ';').tail

/-- What a piece would set. -/
def pieceName (piece : Chars) : Chars := ((splitOnce '=' piece).getD (piece, "?1".toList)).1

def assigned : List Chars :=
  ["created".toList, "expires".toList, "keyid".toList, "alg".toList]

/-- The member is read as what it says, and no piece of a note sets anything. -/
structure RespectsQuotes (m : SignatureInputMember) : Prop where
  parsed : parseSignatureParams m.raw = .ok (m.meaning id)
  inert : ∀ p ∈ m.params, ∀ s, p.note? = some s → ∀ piece ∈ innerPieces s,
    ∀ parsed : SignatureParams, parsed.set (trimmed piece) = .ok parsed

/-- There is nothing in the names and strings that would need the quotes. -/
structure NeedsNoQuotes (m : SignatureInputMember) : Prop where
  names : ∀ name ∈ m.covered, ∀ c ∈ name,
    isWhitespace c = false ∧ c ≠ ')' ∧ c ≠ '"' ∧ c ≠ '\\'
  strings : ∀ p ∈ m.params, ∀ s, p.string? = some s → ∀ c ∈ s, c ≠ ';' ∧ c ≠ '"' ∧ c ≠ '\\'
  notes : ∀ p ∈ m.params, ∀ s, p.note? = some s → ∀ piece ∈ innerPieces s,
    pieceName (trimmed piece) ∉ assigned

section Escapes

variable {s : Chars} {c : Char}

theorem escape_cons (c : Char) (s : Chars) :
    escape (c :: s) = (if c = '"' ∨ c = '\\' then ['\\', c] else [c]) ++ escape s :=
  List.flatMap_cons ..

theorem mem_escape (h : c ∈ escape s) : c ∈ s ∨ c = '\\' := by
  obtain ⟨d, hd, hc⟩ := List.mem_flatMap.mp h
  split at hc
  · rcases List.mem_cons.mp hc with rfl | hc
    · exact Or.inr rfl
    · exact Or.inl (List.mem_singleton.mp hc ▸ hd)
  · exact Or.inl (List.mem_singleton.mp hc ▸ hd)

theorem length_le_escape (s : Chars) : s.length ≤ (escape s).length := by
  induction s with
  | nil => exact Nat.le_refl _
  | cons c s ih =>
      rw [escape_cons, List.length_append, List.length_cons]
      split
      · simp only [List.length_cons, List.length_nil]
        omega
      · simp only [List.length_cons, List.length_nil]
        omega

/-- A text is left as it is if there is nothing to escape. -/
theorem escape_eq_self_iff : escape s = s ↔ ∀ c ∈ s, c ≠ '"' ∧ c ≠ '\\' := by
  induction s with
  | nil => simp [escape]
  | cons c s ih =>
      rw [escape_cons, List.forall_mem_cons, ← ih]
      split
      · next hc =>
          refine ⟨fun h => ?_, fun h => by tauto⟩
          have hlength := congrArg List.length h
          have := length_le_escape s
          simp only [List.length_append, List.length_cons, List.length_nil] at hlength
          omega
      · next hc =>
          rw [not_or] at hc
          simp [hc]

theorem escape_ne_nil (h : s ≠ []) : escape s ≠ [] := by
  intro he
  have := length_le_escape s
  rw [he, List.length_nil] at this
  exact h (List.eq_nil_of_length_eq_zero (by omega))

end Escapes

section Pieces

variable {parsed params : SignatureParams} {piece : Chars}

/-- What names none of the four is passed by. -/
theorem set_of_other (h : pieceName piece ∉ assigned) : parsed.set piece = .ok parsed := by
  simp only [assigned, List.mem_cons, List.not_mem_nil, or_false, not_or, pieceName] at h
  obtain ⟨hcreated, hexpires, hkeyid, halg⟩ := h
  exact (if_neg hcreated).trans ((if_neg hexpires).trans ((if_neg hkeyid).trans (if_neg halg)))

/-- What names one of the four sets it to something. -/
theorem pieceName_of_inert (h : ∀ parsed : SignatureParams, parsed.set piece = .ok parsed) :
    pieceName piece ∉ assigned := by
  intro hmem
  have hblank := h { covered := [], keyid := "a".toList }
  have hother := h { covered := [], keyid := "b".toList }
  simp only [assigned, List.mem_cons, List.not_mem_nil, or_false, pieceName] at hmem
  unfold SignatureParams.set at hblank hother
  generalize (splitOnce '=' piece).getD (piece, "?1".toList) = p at hmem hblank hother
  obtain ⟨name, value⟩ := p
  simp only at hmem hblank hother
  rcases hmem with rfl | rfl | rfl | rfl
  · rw [if_pos rfl] at hblank
    obtain ⟨n, -, hn⟩ := bind_eq_ok.mp hblank
    cases hn
  · rw [if_neg (by decide), if_pos rfl] at hblank
    obtain ⟨n, -, hn⟩ := bind_eq_ok.mp hblank
    cases hn
  · rw [if_neg (by decide), if_neg (by decide), if_pos rfl] at hblank hother
    obtain ⟨s, hs, hn⟩ := bind_eq_ok.mp hblank
    obtain ⟨t, ht, hn'⟩ := bind_eq_ok.mp hother
    rw [hs] at ht
    obtain rfl := Except.ok.inj ht
    have ha := congrArg SignatureParams.keyid (Except.ok.inj hn)
    have hb := congrArg SignatureParams.keyid (Except.ok.inj hn')
    exact absurd (ha.symm.trans hb) (by decide)
  · rw [if_neg (by decide), if_neg (by decide), if_neg (by decide), if_pos rfl] at hblank
    obtain ⟨n, -, hn⟩ := bind_eq_ok.mp hblank
    cases hn

theorem foldlM_set_of_other {pieces : List Chars}
    (h : ∀ piece ∈ pieces, pieceName piece ∉ assigned) :
    pieces.foldlM SignatureParams.set parsed = .ok parsed := by
  induction pieces with
  | nil => rfl
  | cons piece pieces ih =>
      obtain ⟨hpiece, hpieces⟩ := List.forall_mem_cons.mp h
      rw [List.foldlM_cons, set_of_other hpiece]
      exact ih hpieces

end Pieces

/-! ## What the reader makes of the parameters -/

namespace SignatureParam

/-- Neither a semicolon in a string nor a parameter in a note. -/
structure Tame (p : SignatureParam) : Prop where
  string : ∀ s, p.string? = some s → ';' ∉ s
  note : ∀ s, p.note? = some s → ∀ piece ∈ innerPieces s, pieceName (trimmed piece) ∉ assigned

variable {p : SignatureParam} {parsed : SignatureParams}

theorem name_lower : ∀ c ∈ p.name, c.isLower = true := by
  cases p <;> exact List.all_eq_true.mp rfl

theorem name_no_semicolon : ';' ∉ p.name := fun h => absurd (name_lower _ h) (by decide)

theorem name_no_equals : '=' ∉ p.name := fun h => absurd (name_lower _ h) (by decide)

theorem value_endsSolid : EndsSolid p.value := by
  cases p with
  | created n => exact endsSolid_of_forall renderInt_not_whitespace
  | expires n => exact endsSolid_of_forall renderInt_not_whitespace
  | keyid s => exact quote_endsSolid
  | alg s => exact quote_endsSolid
  | nonce s => exact quote_endsSolid
  | tag s => exact quote_endsSolid

theorem text_endsSolid : EndsSolid p.text := by
  have hequals : EndsSolid (p.name ++ ['=']) := endsSolid_concat (by decide)
  have hshape : p.text = (p.name ++ ['=']) ++ p.value := by simp [text]
  rw [hshape]
  exact hequals.append value_endsSolid

/-- A name begins with a letter. -/
theorem name_head : ∃ c s, p.name = c :: s ∧ isWhitespace c = false := by
  cases p <;> exact ⟨_, _, rfl, by decide⟩

theorem trimmed_text : trimmed p.text = p.text := by
  refine strip_eq_self (fun c hc => ?_) text_endsSolid
  obtain ⟨d, s, hname, hd⟩ := name_head (p := p)
  rw [text, hname] at hc
  obtain rfl : d = c := by simpa using hc
  exact hd

theorem splitOnce_text : splitOnce '=' p.text = some (p.name, p.value) :=
  splitOnce_append name_no_equals

theorem text_ne_nil : p.text ≠ [] := by simp [text]

/-- A parameter in one piece is read with its escapes. -/
theorem set_text : parsed.set p.text = .ok (parsed.given escape p) := by
  have hstring (n s : Chars) : SignatureParams.stringParam n (quote s) = .ok s := by
    rw [SignatureParams.stringParam, unquote_eq_some.mpr rfl]
  have hinteger (s : Chars) (n : Int64) : SignatureParams.integerParam s (renderInt n) = .ok n := by
    rw [SignatureParams.integerParam, parseInt_renderInt]
  have hne {a b : String} (h : a ≠ b) : a.toList ≠ b.toList := fun he => h (String.toList_inj.mp he)
  rw [SignatureParams.set, splitOnce_text, Option.getD_some]
  cases p with
  | created n =>
      refine (if_pos rfl).trans ?_
      rw [value, hinteger]
      rfl
  | expires n =>
      refine (if_neg (hne (by decide))).trans ((if_pos rfl).trans ?_)
      rw [value, hinteger]
      rfl
  | keyid s =>
      refine (if_neg (hne (by decide))).trans ((if_neg (hne (by decide))).trans
        ((if_pos rfl).trans ?_))
      rw [value, hstring]
      rfl
  | alg s =>
      refine (if_neg (hne (by decide))).trans ((if_neg (hne (by decide))).trans
        ((if_neg (hne (by decide))).trans ((if_pos rfl).trans ?_)))
      rw [value, hstring]
      rfl
  | nonce s => rfl
  | tag s => rfl

end SignatureParam

theorem splitOn_append_left {c : Char} {a : Chars} (h : c ∉ a) (s : Chars) :
    (a ++ s).splitOn c = (s.splitOn c).modifyHead (a ++ ·) := by
  induction a with
  | nil =>
      rw [List.nil_append]
      cases s.splitOn c <;> rfl
  | cons d a ih =>
      rw [List.mem_cons, not_or] at h
      rw [List.cons_append, List.splitOn_cons_eq_if_modifyHead, if_neg (by simpa using Ne.symm h.1),
        ih h.2]
      cases s.splitOn c <;> rfl

/-- The first piece of a note has its name, and the others are the inner ones. -/
theorem splitOn_quoted {name s : Chars} (hname : ';' ∉ name) :
    ∃ t, (name ++ '=' :: quote (escape s)).splitOn ';' =
      (name ++ '=' :: '"' :: t) :: innerPieces s := by
  have hlead : ';' ∉ name ++ ['='] := by simp [hname]
  obtain ⟨pieces, hpieces⟩ := exists_splitOnP (· == ';') (quote (escape s))
  have hfirst : (quote (escape s)).takeWhile (fun c => !(c == ';')) =
      '"' :: (escape s ++ ['"']).takeWhile (fun c => !(c == ';')) := rfl
  have hinner : innerPieces s = pieces := by
    rw [innerPieces, List.splitOn_eq_splitOnP, hpieces, List.tail_cons]
  refine ⟨(escape s ++ ['"']).takeWhile (fun c => !(c == ';')), ?_⟩
  have hshape : name ++ '=' :: quote (escape s) = (name ++ ['=']) ++ quote (escape s) := by simp
  rw [hshape, splitOn_append_left hlead, List.splitOn_eq_splitOnP, hpieces, hinner, hfirst,
    List.modifyHead_cons]
  simp

/-- What stands behind the quote is trimmed, and not the name before it. -/
theorem trimmed_first {c : Char} {s t : Chars} (hc : isWhitespace c = false) :
    ∃ t', trimmed (c :: s ++ '=' :: '"' :: t) = c :: s ++ '=' :: '"' :: t' := by
  refine ⟨t.rdropWhile isWhitespace, ?_⟩
  have hsplit : c :: s ++ '=' :: '"' :: t =
      (c :: s ++ '=' :: '"' :: t.rdropWhile isWhitespace) ++ t.rtakeWhile isWhitespace := by
    have htail : t.rdropWhile isWhitespace ++ t.rtakeWhile isWhitespace = t :=
      List.rdropWhile_append_rtakeWhile
    conv_lhs => rw [← htail]
    simp
  have hblank : ∀ d ∈ t.rtakeWhile isWhitespace, isWhitespace d = true := by
    intro d hd
    rw [List.rtakeWhile, List.mem_reverse] at hd
    exact List.mem_takeWhile_imp hd
  have hsolid : EndsSolid (t.rdropWhile isWhitespace) := by
    intro d hd
    have hne : t.rdropWhile isWhitespace ≠ [] := by
      intro hnil
      rw [hnil] at hd
      cases hd
    have hlast := List.rdropWhile_last_not isWhitespace t hne
    rw [List.getLast?_eq_some_getLast hne] at hd
    obtain rfl := Option.some.inj hd
    exact Bool.eq_false_iff.mpr hlast
  rw [hsplit, trimmed, strip_append_right hblank]
  refine strip_eq_self (fun d hd => ?_) ?_
  · obtain rfl : c = d := by simpa using hd
    exact hc
  · have hquote : EndsSolid ((c :: s ++ ['=']) ++ ['"']) := endsSolid_concat (by decide)
    have hshape : c :: s ++ '=' :: '"' :: t.rdropWhile isWhitespace =
        ((c :: s ++ ['=']) ++ ['"']) ++ t.rdropWhile isWhitespace := by
      simp
    rw [hshape]
    exact hquote.append hsolid

/-- The pieces of a parameter. -/
def paramPieces (p : SignatureParam) : List Chars :=
  ((p.text.splitOn ';').map trimmed).filter (· ≠ [])

/-- A note is passed by if no piece of it sets anything. -/
theorem fold_note {parsed : SignatureParams} {p : SignatureParam} {s : Chars}
    (htext : p.text = p.name ++ '=' :: quote (escape s)) (hname : p.name ∉ assigned)
    (hinner : ∀ piece ∈ innerPieces s, pieceName (trimmed piece) ∉ assigned) :
    (paramPieces p).foldlM SignatureParams.set parsed = .ok parsed := by
  refine foldlM_set_of_other fun piece hpiece => ?_
  obtain ⟨part, hpart, rfl⟩ := List.mem_map.mp (List.mem_filter.mp hpiece).1
  obtain ⟨t, hsplit⟩ := splitOn_quoted (s := s) p.name_no_semicolon
  rw [htext, hsplit] at hpart
  rcases List.mem_cons.mp hpart with rfl | hpart
  · obtain ⟨c, rest, hhead, hc⟩ := p.name_head
    obtain ⟨t', ht'⟩ := trimmed_first (s := rest) (t := t) hc
    have hequals : '=' ∉ p.name := p.name_no_equals
    rw [hhead, ht', ← hhead, pieceName, splitOnce_append hequals]
    exact hname
  · exact hinner part hpart

/-- **Each parameter is read by itself**, with its escapes. -/
theorem fold_param {parsed : SignatureParams} {p : SignatureParam} (h : p.Tame) :
    (paramPieces p).foldlM SignatureParams.set parsed = .ok (parsed.given escape p) := by
  have hsingle (hvalue : ';' ∉ p.value) :
      (paramPieces p).foldlM SignatureParams.set parsed = .ok (parsed.given escape p) := by
    have hone : paramPieces p = [p.text] := by
      have htext : ';' ∉ p.text := by simp [SignatureParam.text, p.name_no_semicolon, hvalue]
      rw [paramPieces, List.splitOn_eq_singleton htext, List.map_singleton, p.trimmed_text,
        List.filter_cons_of_pos (by simpa using p.text_ne_nil), List.filter_nil]
    rw [hone, List.foldlM_cons, p.set_text]
    rfl
  have hquoted {s : Chars} (hs : ';' ∉ s) : ';' ∉ quote (escape s) := by
    refine quote_no_semicolon fun hmem => ?_
    rcases mem_escape hmem with hmem | hmem
    · exact hs hmem
    · exact absurd hmem (by decide)
  cases p with
  | created n => exact hsingle renderInt_no_semicolon
  | expires n => exact hsingle renderInt_no_semicolon
  | keyid s => exact hsingle (hquoted (h.string s rfl))
  | alg s => exact hsingle (hquoted (h.string s rfl))
  | nonce s => exact fold_note rfl (show "nonce".toList ∉ assigned by decide) (h.note s rfl)
  | tag s => exact fold_note rfl (show "tag".toList ∉ assigned by decide) (h.note s rfl)

/-- A semicolon before each parameter sets it apart. -/
theorem splitOn_params (params : List SignatureParam) :
    (params.flatMap fun p => ';' :: p.text).splitOn ';' =
      [] :: params.flatMap fun p => p.text.splitOn ';' := by
  induction params with
  | nil => rfl
  | cons p params ih =>
      have hhead (s : Chars) : (';' :: s).splitOn ';' = [] :: s.splitOn ';' :=
        List.splitOn_append_cons_self [] s
      rw [List.flatMap_cons, List.flatMap_cons, List.cons_append, hhead]
      cases params with
      | nil => simp
      | cons p' params =>
          rw [List.flatMap_cons, List.cons_append, List.splitOn_append_cons_self]
          rw [List.flatMap_cons, List.cons_append, hhead] at ih
          rw [List.tail_eq_of_cons_eq ih]

theorem paramList_params (params : List SignatureParam) :
    paramList (params.flatMap fun p => ';' :: p.text) = params.flatMap paramPieces := by
  rw [paramList, splitOn_params, List.map_cons, List.filter_cons_of_neg (by simp [trimmed, strip]),
    List.map_flatMap, List.filter_flatMap]
  rfl

theorem fold_params {params : List SignatureParam} (h : ∀ p ∈ params, p.Tame) :
    ∀ parsed : SignatureParams, (params.flatMap paramPieces).foldlM SignatureParams.set parsed =
      .ok (params.foldl (SignatureParams.given escape) parsed) := by
  induction params with
  | nil => exact fun parsed => rfl
  | cons p params ih =>
      obtain ⟨hp, hparams⟩ := List.forall_mem_cons.mp h
      intro parsed
      rw [List.flatMap_cons, List.foldlM_append, fold_param hp]
      exact ih hparams _

/-! ## What a member says -/

section Meaning

variable {f : Chars → Chars} {params : List SignatureParam}

/-- What no parameter sets stays as it is. -/
theorem foldl_given_same {β : Type} (g : SignatureParams → β)
    (h : ∀ p ∈ params, ∀ parsed : SignatureParams, g (parsed.given f p) = g parsed) :
    ∀ parsed, g (params.foldl (SignatureParams.given f) parsed) = g parsed := by
  induction params with
  | nil => exact fun parsed => rfl
  | cons p params ih =>
      intro parsed
      obtain ⟨hp, hparams⟩ := List.forall_mem_cons.mp h
      rw [List.foldl_cons, ih hparams, hp]

/-- What only one parameter sets is as that one says. -/
theorem foldl_given_of_mem {β : Type} (g : SignatureParams → β) {p : SignatureParam} {b : β}
    (hset : ∀ parsed : SignatureParams, g (parsed.given f p) = b)
    (hothers : ∀ other, other.name ≠ p.name →
      ∀ parsed : SignatureParams, g (parsed.given f other) = g parsed)
    (honce : (params.map SignatureParam.name).Nodup) (hmem : p ∈ params) :
    ∀ parsed, g (params.foldl (SignatureParams.given f) parsed) = b := by
  induction params with
  | nil => cases hmem
  | cons first params ih =>
      intro parsed
      rw [List.map_cons, List.nodup_cons] at honce
      rw [List.foldl_cons]
      rcases List.mem_cons.mp hmem with rfl | hmem
      · refine (foldl_given_same g (fun other hother => hothers other fun hname => ?_) _).trans
          (hset parsed)
        exact honce.1 (hname ▸ List.mem_map_of_mem hother)
      · exact ih honce.2 hmem _

end Meaning

namespace SignatureInputMember

variable {m : SignatureInputMember}

theorem meaning_covered (f : Chars → Chars) : (m.meaning f).covered = m.covered.map f := by
  refine foldl_given_same SignatureParams.covered (fun p _ parsed => ?_) _
  cases p <;> rfl

theorem meaning_keyid (f : Chars → Chars) {s : Chars} (h : .keyid s ∈ m.params) :
    (m.meaning f).keyid = f s := by
  refine foldl_given_of_mem SignatureParams.keyid (fun _ => rfl) (fun other hname parsed => ?_)
    m.once h _
  cases other with
  | keyid t => exact absurd rfl hname
  | _ => rfl

theorem meaning_alg (f : Chars → Chars) {s : Chars} (h : .alg s ∈ m.params) :
    (m.meaning f).alg = some (f s) := by
  refine foldl_given_of_mem SignatureParams.alg (fun _ => rfl) (fun other hname parsed => ?_)
    m.once h _
  cases other with
  | alg t => exact absurd rfl hname
  | _ => rfl

theorem params_endsSolid (params : List SignatureParam) :
    EndsSolid (params.flatMap fun p => ';' :: p.text) := by
  induction params with
  | nil => exact fun c hc => nomatch hc
  | cons p params ih =>
      have hp : EndsSolid ([';'] ++ p.text) :=
        EndsSolid.append (endsSolid_concat (s := []) (by decide)) p.text_endsSolid
      rw [List.flatMap_cons]
      exact hp.append ih

theorem trimmed_raw : trimmed m.raw = m.raw := by
  have hclose : EndsSolid (quotedList (m.covered.map escape)) := endsSolid_concat (by decide)
  refine strip_eq_self (fun c hc => ?_) (hclose.append (params_endsSolid m.params))
  obtain rfl : '(' = c := by simpa [raw, quotedList] using hc
  decide

/-- **Tame parameters behind clean names are read with their escapes.** -/
theorem parse_raw (hnames : ∀ name ∈ m.covered, (∀ c ∈ name, isWhitespace c = false) ∧ ')' ∉ name)
    (htame : ∀ p ∈ m.params, p.Tame) : parseSignatureParams m.raw = .ok (m.meaning escape) := by
  have hescaped : ∀ name ∈ m.covered.map escape,
      (∀ c ∈ name, isWhitespace c = false) ∧ ')' ∉ name := by
    intro escaped hescaped
    obtain ⟨name, hname, rfl⟩ := List.mem_map.mp hescaped
    refine ⟨fun c hc => ?_, fun hc => ?_⟩
    · rcases mem_escape hc with hc | rfl
      · exact (hnames name hname).1 c hc
      · decide
    · rcases mem_escape hc with hc | hc
      · exact (hnames name hname).2 hc
      · exact absurd hc (by decide)
  have hlead : stripPrefix '(' (trimmed m.raw) =
      some ([' '].intercalate ((m.covered.map escape).map quote) ++ ')' ::
        m.params.flatMap fun p => ';' :: p.text) := by
    rw [trimmed_raw, raw, quotedList, stripPrefix_eq_some]
    simp
  have hclose := quotedList_no_close fun name hname => (hescaped name hname).2
  have hwords := words_quotedList fun name hname => (hescaped name hname).1
  have hfold := fold_params htame { covered := m.covered.map escape }
  have hread : m.params.foldl (SignatureParams.given escape) { covered := m.covered.map escape } =
      m.meaning escape := rfl
  obtain ⟨kid, hne, hkid⟩ := m.keyed
  have hkeyid : (m.meaning escape).keyid ≠ [] := by
    rw [meaning_keyid escape hkid]
    exact escape_ne_nil hne
  unfold parseSignatureParams
  rw [hlead]
  dsimp only
  rw [splitOnce_append hclose]
  dsimp only
  rw [hwords, mapM_coveredName, paramList_params]
  show (List.foldlM SignatureParams.set { covered := m.covered.map escape } _ >>= _) = _
  rw [hfold, hread]
  exact if_neg hkeyid

end SignatureInputMember

/-! ## What is given in quotes and found again -/

/-- The name of an algorithm that is found stands in one piece. -/
theorem set_alg {parsed params : SignatureParams} {piece : Chars}
    (h : parsed.set piece = .ok params) :
    params.alg = parsed.alg ∨ ∃ s, params.alg = some s ∧ (';' ∉ piece → ';' ∉ s) := by
  have hvalue : ∀ c ∈ ((splitOnce '=' piece).getD (piece, "?1".toList)).2, c = ';' → c ∈ piece := by
    intro c hc hsemicolon
    cases honce : splitOnce '=' piece with
    | none =>
        rw [honce, Option.getD_none, hsemicolon] at hc
        exact absurd hc (show ';' ∉ "?1".toList by decide)
    | some q =>
        rw [honce] at hc
        rw [(splitOnce_eq_some honce).1]
        exact List.mem_append_right _ (List.mem_cons_of_mem _ hc)
  unfold SignatureParams.set at h
  generalize (splitOnce '=' piece).getD (piece, "?1".toList) = p at h hvalue
  obtain ⟨name, value⟩ := p
  simp only at h hvalue
  split at h
  · obtain ⟨n, -, hn⟩ := bind_eq_ok.mp h
    obtain rfl := Except.ok.inj hn
    exact Or.inl rfl
  split at h
  · obtain ⟨n, -, hn⟩ := bind_eq_ok.mp h
    obtain rfl := Except.ok.inj hn
    exact Or.inl rfl
  split at h
  · obtain ⟨n, -, hn⟩ := bind_eq_ok.mp h
    obtain rfl := Except.ok.inj hn
    exact Or.inl rfl
  split at h
  · obtain ⟨s, hs, hn⟩ := bind_eq_ok.mp h
    obtain rfl := Except.ok.inj hn
    refine Or.inr ⟨s, rfl, fun hpiece hsemicolon => hpiece ?_⟩
    unfold SignatureParams.stringParam at hs
    split at hs
    · next t ht =>
        obtain rfl := Except.ok.inj hs
        have hmem : ';' ∈ quote t := List.mem_append_left _ (List.mem_cons_of_mem _ hsemicolon)
        rw [← unquote_eq_some.mp ht] at hmem
        exact hvalue ';' hmem rfl
    · cases hs
  · obtain rfl := Except.ok.inj h
    exact Or.inl rfl

theorem foldlM_set_alg {pieces : List Chars} (hpieces : ∀ piece ∈ pieces, ';' ∉ piece) :
    ∀ {parsed params : SignatureParams}, pieces.foldlM SignatureParams.set parsed = .ok params →
      (∀ s, parsed.alg = some s → ';' ∉ s) → ∀ s, params.alg = some s → ';' ∉ s := by
  induction pieces with
  | nil =>
      intro parsed params h hparsed
      obtain rfl := Except.ok.inj h
      exact hparsed
  | cons piece pieces ih =>
      intro parsed params h hparsed
      obtain ⟨hpiece, hpieces⟩ := List.forall_mem_cons.mp hpieces
      rw [List.foldlM_cons] at h
      obtain ⟨parsed', hset, hrest⟩ := bind_eq_ok.mp h
      refine ih hpieces hrest fun s hs => ?_
      rcases set_alg hset with hsame | ⟨t, ht, hpart⟩
      · exact hparsed s (hsame ▸ hs)
      · rw [ht] at hs
        exact Option.some.inj hs ▸ hpart hpiece

theorem parse_alg {raw : Chars} {params : SignatureParams}
    (h : parseSignatureParams raw = .ok params) {s : Chars} (hs : params.alg = some s) : ';' ∉ s := by
  unfold parseSignatureParams at h
  split at h
  · cases h
  split at h
  · cases h
  next list texts honce =>
  obtain ⟨covered, -, h⟩ := bind_eq_ok.mp h
  obtain ⟨parsed, hparsed, h⟩ := bind_eq_ok.mp h
  split at h
  · cases h
  obtain rfl := Except.ok.inj h
  refine foldlM_set_alg (fun piece hpiece => ?_) hparsed (fun s hs => (by cases hs)) s hs
  obtain ⟨part, hpart, rfl⟩ := List.mem_map.mp (List.mem_filter.mp hpiece).1
  exact fun hmem => (mem_splitOn hpart).2 (mem_of_mem_strip hmem)

theorem parse_keyid {raw : Chars} {params : SignatureParams}
    (h : parseSignatureParams raw = .ok params) : ';' ∉ params.keyid := by
  obtain ⟨list, texts, -, -, text, htext, hkeyid⟩ := parseSignatureParams_eq_ok h
  intro hmem
  have hpiece : ';' ∈ trimmed text := by
    rw [hkeyid]
    exact List.mem_append_right _ (List.mem_append_left _ (List.mem_cons_of_mem _ hmem))
  exact (mem_splitOn htext).2 (mem_of_mem_strip hpiece)

namespace SignatureInputMember

variable {m : SignatureInputMember}

/-- What is said depends on the names and the strings alone. -/
theorem meaning_congr {f g : Chars → Chars} (hnames : ∀ name ∈ m.covered, f name = g name)
    (hstrings : ∀ p ∈ m.params, ∀ s, p.string? = some s → f s = g s) :
    m.meaning f = m.meaning g := by
  have hfold : ∀ (params : List SignatureParam) (parsed : SignatureParams),
      (∀ p ∈ params, ∀ s, p.string? = some s → f s = g s) →
      params.foldl (SignatureParams.given f) parsed =
        params.foldl (SignatureParams.given g) parsed := by
    intro params
    induction params with
    | nil => exact fun parsed _ => rfl
    | cons p params ih =>
        intro parsed h
        obtain ⟨hp, hparams⟩ := List.forall_mem_cons.mp h
        have hgiven : parsed.given f p = parsed.given g p := by
          cases p with
          | keyid s => rw [SignatureParams.given, SignatureParams.given, hp s rfl]
          | alg s => rw [SignatureParams.given, SignatureParams.given, hp s rfl]
          | _ => rfl
        rw [List.foldl_cons, List.foldl_cons, hgiven]
        exact ih _ hparams
  rw [meaning, meaning, List.map_congr_left hnames]
  exact hfold _ _ hstrings

/-- Members that are read as what they say have tame parameters and clean names. -/
theorem tame_of_respects (h : RespectsQuotes m) :
    (∀ name ∈ m.covered, (∀ c ∈ name, isWhitespace c = false) ∧ ')' ∉ name) ∧
      ∀ p ∈ m.params, p.Tame := by
  obtain ⟨-, -, -, hnames, -⟩ := parseSignatureParams_eq_ok h.parsed
  rw [meaning_covered, List.map_id] at hnames
  refine ⟨hnames, fun p hp => ⟨fun s hs => ?_, fun s hs piece hpiece => ?_⟩⟩
  · cases p with
    | keyid t =>
        obtain rfl := Option.some.inj hs
        have hkeyid := parse_keyid h.parsed
        rwa [meaning_keyid id hp] at hkeyid
    | alg t =>
        obtain rfl := Option.some.inj hs
        exact parse_alg h.parsed (meaning_alg id hp)
    | _ => cases hs
  · exact pieceName_of_inert (h.inert p hp s hs piece hpiece)

end SignatureInputMember

/-- **A member is read as what it says**, notes and all, exactly if it needs no quotes. -/
theorem respects_quotes_iff (m : SignatureInputMember) : RespectsQuotes m ↔ NeedsNoQuotes m := by
  constructor
  · intro h
    obtain ⟨hnames, htame⟩ := SignatureInputMember.tame_of_respects h
    have hsame : m.meaning escape = m.meaning id :=
      Except.ok.inj ((SignatureInputMember.parse_raw hnames htame).symm.trans h.parsed)
    have hcovered : m.covered.map escape = m.covered.map id := by
      have := congrArg SignatureParams.covered hsame
      rwa [SignatureInputMember.meaning_covered, SignatureInputMember.meaning_covered] at this
    refine ⟨fun name hname c hc => ?_, fun p hp s hs c hc => ?_,
      fun p hp s hs => (htame p hp).note s hs⟩
    · have hescape := escape_eq_self_iff.mp (List.map_inj_left.mp hcovered name hname)
      refine ⟨(hnames name hname).1 c hc, ?_, hescape c hc⟩
      rintro rfl
      exact (hnames name hname).2 hc
    · have hescape : escape s = s := by
        cases p with
        | keyid t =>
            obtain rfl := Option.some.inj hs
            have := congrArg SignatureParams.keyid hsame
            rwa [SignatureInputMember.meaning_keyid escape hp,
              SignatureInputMember.meaning_keyid id hp] at this
        | alg t =>
            obtain rfl := Option.some.inj hs
            have := congrArg SignatureParams.alg hsame
            rw [SignatureInputMember.meaning_alg escape hp,
              SignatureInputMember.meaning_alg id hp] at this
            exact Option.some.inj this
        | _ => cases hs
      refine ⟨?_, escape_eq_self_iff.mp hescape c hc⟩
      rintro rfl
      exact (htame p hp).string s hs hc
  · intro h
    have hnames : ∀ name ∈ m.covered, (∀ c ∈ name, isWhitespace c = false) ∧ ')' ∉ name :=
      fun name hname => ⟨fun c hc => (h.names name hname c hc).1,
        fun hc => (h.names name hname _ hc).2.1 rfl⟩
    have htame : ∀ p ∈ m.params, p.Tame := fun p hp =>
      ⟨fun s hs hc => (h.strings p hp s hs _ hc).1 rfl, fun s hs => h.notes p hp s hs⟩
    have hsame : m.meaning escape = m.meaning id := by
      refine SignatureInputMember.meaning_congr (fun name hname => ?_) fun p hp s hs => ?_
      · exact escape_eq_self_iff.mpr fun c hc => (h.names name hname c hc).2.2
      · exact escape_eq_self_iff.mpr fun c hc => (h.strings p hp s hs c hc).2
    refine ⟨?_, fun p hp s hs piece hpiece parsed => set_of_other (h.notes p hp s hs piece hpiece)⟩
    rw [SignatureInputMember.parse_raw hnames htame, hsame]

/-- A note with a parameter between two semicolons, behind the parameter itself. -/
def overridden : SignatureInputMember where
  covered := ["@method".toList]
  params := [.created 1760000000, .keyid "agent-1".toList, .nonce "a;created=5;b".toList]
  once := by decide
  keyed := ⟨"agent-1".toList, by decide, by decide⟩

/-- The time of the signature is read from the note. -/
theorem note_sets_created :
    parseSignatureParams overridden.raw =
        .ok { covered := ["@method".toList], created := some 5, keyid := "agent-1".toList } ∧
      ¬ RespectsQuotes overridden := by
  have hread : parseSignatureParams overridden.raw =
      .ok { covered := ["@method".toList], created := some 5, keyid := "agent-1".toList } := by
    decide +kernel
  refine ⟨hread, fun h => ?_⟩
  have hcreated := congrArg SignatureParams.created (Except.ok.inj (hread.symm.trans h.parsed))
  exact absurd hcreated (by decide)

end Orchestrator
