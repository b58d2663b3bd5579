/-
# `CommerceOrchestrator.Text.Base64` — bytes as text

Base64 with either alphabet, padded or not.  Three bytes are four digits; what is left over
at the end is two or three digits whose last bits are zero.  A reader accepts the text of
some bytes and no other text.
-/
import CommerceOrchestrator.Text.Chars

namespace Text

abbrev Bytes := List UInt8

/-! ## Digits -/

/-- The digits of some bytes, each below 64. -/
def sextets : Bytes → List Nat
  | [] => []
  | [a] => [a.toNat / 4, a.toNat % 4 * 16]
  | [a, b] => [a.toNat / 4, a.toNat % 4 * 16 + b.toNat / 16, b.toNat % 16 * 4]
  | a :: b :: c :: bytes =>
      a.toNat / 4 :: (a.toNat % 4 * 16 + b.toNat / 16) :: (b.toNat % 16 * 4 + c.toNat / 64) ::
        c.toNat % 64 :: sextets bytes

/-- The bytes with these digits. -/
def ofSextets : List Nat → Option Bytes
  | [] => some []
  | [_] => none
  | [w, x] => if x % 16 = 0 then some [.ofNat (w * 4 + x / 16)] else none
  | [w, x, y] =>
      if y % 4 = 0 then some [.ofNat (w * 4 + x / 16), .ofNat (x % 16 * 16 + y / 4)] else none
  | w :: x :: y :: z :: rest =>
      (ofSextets rest).map fun bytes =>
        .ofNat (w * 4 + x / 16) :: .ofNat (x % 16 * 16 + y / 4) :: .ofNat (y % 4 * 64 + z) :: bytes

theorem sextets_lt (bytes : Bytes) : ∀ n ∈ sextets bytes, n < 64 := by
  induction bytes using sextets.induct with
  | case1 => exact fun _ h => nomatch h
  | case2 a =>
      have ha := a.toNat_lt
      simp only [sextets, List.mem_cons, List.not_mem_nil, or_false]
      omega
  | case3 a b =>
      have ha := a.toNat_lt
      have hb := b.toNat_lt
      simp only [sextets, List.mem_cons, List.not_mem_nil, or_false]
      omega
  | case4 a b c bytes ih =>
      have ha := a.toNat_lt
      have hb := b.toNat_lt
      have hc := c.toNat_lt
      simp only [sextets, List.forall_mem_cons]
      exact ⟨by omega, by omega, by omega, by omega, ih⟩

theorem ofNat_eq {n : Nat} {a : UInt8} (h : n = a.toNat) : UInt8.ofNat n = a := by
  rw [h, UInt8.ofNat_toNat]

theorem ofSextets_sextets (bytes : Bytes) : ofSextets (sextets bytes) = some bytes := by
  induction bytes using sextets.induct with
  | case1 => rfl
  | case2 a =>
      rw [sextets, ofSextets, if_pos (by omega), ofNat_eq (a := a) (by omega)]
  | case3 a b =>
      have hb := b.toNat_lt
      rw [sextets, ofSextets, if_pos (by omega), ofNat_eq (a := a) (by omega),
        ofNat_eq (a := b) (by omega)]
  | case4 a b c bytes ih =>
      have hb := b.toNat_lt
      have hc := c.toNat_lt
      rw [sextets, ofSextets, ih, Option.map_some, ofNat_eq (a := a) (by omega),
        ofNat_eq (a := b) (by omega), ofNat_eq (a := c) (by omega)]

/-! ## Alphabets -/

/-- The characters of the digits 62 and 63; those of the others are the same everywhere. -/
structure Alphabet where
  c62 : Char
  c63 : Char

def Alphabet.standard : Alphabet := ⟨'+', '/'⟩

def Alphabet.urlSafe : Alphabet := ⟨'-', '_'⟩

def Alphabet.digit (A : Alphabet) (n : Nat) : Char :=
  if n < 26 then Char.ofNat (65 + n)
  else if n < 52 then Char.ofNat (71 + n)
  else if n < 62 then Char.ofNat (n - 4)
  else if n = 62 then A.c62
  else A.c63

def Alphabet.value (A : Alphabet) (c : Char) : Option Nat :=
  if 65 ≤ c.toNat ∧ c.toNat ≤ 90 then some (c.toNat - 65)
  else if 97 ≤ c.toNat ∧ c.toNat ≤ 122 then some (c.toNat - 71)
  else if 48 ≤ c.toNat ∧ c.toNat ≤ 57 then some (c.toNat + 4)
  else if c = A.c62 then some 62
  else if c = A.c63 then some 63
  else none

theorem value_digit_standard :
    ∀ n < 64, Alphabet.standard.value (Alphabet.standard.digit n) = some n := by
  decide

theorem value_digit_urlSafe :
    ∀ n < 64, Alphabet.urlSafe.value (Alphabet.urlSafe.digit n) = some n := by
  decide

theorem digit_standard_ne : ∀ n < 64, ¬ (Alphabet.standard.digit n == '=') = true := by
  decide

/-- Letters, digits and the two characters of either alphabet. -/
def isBase64 (c : Char) : Bool :=
  c.isAlphanum || c == '+' || c == '/' || c == '-' || c == '_'

theorem isBase64_standard : ∀ n < 64, isBase64 (Alphabet.standard.digit n) = true := by
  decide

theorem isBase64_urlSafe : ∀ n < 64, isBase64 (Alphabet.urlSafe.digit n) = true := by
  decide

/-! ## Texts -/

def Alphabet.encode (A : Alphabet) (bytes : Bytes) : Chars := (sextets bytes).map A.digit

def Alphabet.decode (A : Alphabet) (s : Chars) : Option Bytes := (s.mapM A.value).bind ofSextets

/-- How much padding makes a text as long as a whole number of groups. -/
def padding (n : Nat) : Nat := (4 - n % 4) % 4

/-- `STANDARD.encode`: padded. -/
def encodeStandard (bytes : Bytes) : Chars :=
  let s := Alphabet.standard.encode bytes
  s ++ List.replicate (padding s.length) '='

/-- `STANDARD.decode`: the padding is there and no longer than it has to be. -/
def decodeStandard (s : Chars) : Option Bytes :=
  let body := s.rdropWhile (· == '=')
  if s.length - body.length = padding body.length then Alphabet.standard.decode body else none

/-- `URL_SAFE_NO_PAD.encode`. -/
def encodeUrlSafe (bytes : Bytes) : Chars := Alphabet.urlSafe.encode bytes

/-- `URL_SAFE_NO_PAD.decode`. -/
def decodeUrlSafe (s : Chars) : Option Bytes := Alphabet.urlSafe.decode s

theorem mapM_value {A : Alphabet} (hA : ∀ n < 64, A.value (A.digit n) = some n) {l : List Nat}
    (hl : ∀ n ∈ l, n < 64) : (l.map A.digit).mapM A.value = some l := by
  induction l with
  | nil => rfl
  | cons n l ih =>
      obtain ⟨hn, hl⟩ := List.forall_mem_cons.mp hl
      rw [List.map_cons, List.mapM_cons, hA n hn, ih hl]
      rfl

theorem Alphabet.decode_encode {A : Alphabet} (hA : ∀ n < 64, A.value (A.digit n) = some n)
    (bytes : Bytes) : A.decode (A.encode bytes) = some bytes := by
  rw [Alphabet.decode, Alphabet.encode, mapM_value hA (sextets_lt bytes), Option.bind_some,
    ofSextets_sextets]

theorem decodeUrlSafe_encodeUrlSafe (bytes : Bytes) :
    decodeUrlSafe (encodeUrlSafe bytes) = some bytes :=
  Alphabet.decode_encode value_digit_urlSafe bytes

theorem mem_encodeUrlSafe {bytes : Bytes} {c : Char} (h : c ∈ encodeUrlSafe bytes) :
    isBase64 c = true := by
  obtain ⟨n, hn, rfl⟩ := List.mem_map.mp h
  exact isBase64_urlSafe n (sextets_lt bytes n hn)

theorem mem_encodeStandard {bytes : Bytes} {c : Char} (h : c ∈ encodeStandard bytes) :
    isBase64 c = true ∨ c = '=' := by
  rcases List.mem_append.mp h with h | h
  · obtain ⟨n, hn, rfl⟩ := List.mem_map.mp h
    exact Or.inl (isBase64_standard n (sextets_lt bytes n hn))
  · exact Or.inr (List.eq_of_mem_replicate h)

/-! ## Flavours -/

/-- The text of some bytes with this alphabet, padded or not. -/
def Alphabet.written (A : Alphabet) (padded : Bool) (bytes : Bytes) : Chars :=
  let s := A.encode bytes
  if padded then s ++ List.replicate (padding s.length) '=' else s

theorem padding_eq_zero {n : Nat} : padding n = 0 ↔ n % 4 = 0 := by
  unfold padding
  omega

/-- Whole groups of three bytes are whole groups of four digits. -/
theorem length_sextets_mod (bytes : Bytes) :
    (sextets bytes).length % 4 = 0 ↔ bytes.length % 3 = 0 := by
  induction bytes using sextets.induct with
  | case1 => decide
  | case2 a => simp [sextets]
  | case3 a b => simp [sextets]
  | case4 a b c bytes ih =>
      simp only [sextets, List.length_cons]
      omega

theorem rdropWhile_written {A : Alphabet} (hA : ∀ n < 64, ¬ (A.digit n == '=') = true)
    (padded : Bool) (bytes : Bytes) :
    (A.written padded bytes).rdropWhile (· == '=') = A.encode bytes := by
  have hbody : (A.encode bytes).rdropWhile (· == '=') = A.encode bytes := by
    rw [List.rdropWhile_eq_self_iff]
    intro hne
    obtain ⟨n, hn, hdigit⟩ := List.mem_map.mp (List.getLast_mem hne)
    rw [← hdigit]
    exact hA n (sextets_lt bytes n hn)
  cases padded with
  | false => exact hbody
  | true => exact (rdropWhile_append_of_pos (by simp)).trans hbody

theorem decodeStandard_encodeStandard (bytes : Bytes) :
    decodeStandard (encodeStandard bytes) = some bytes := by
  have hbody : (encodeStandard bytes).rdropWhile (· == '=') = Alphabet.standard.encode bytes :=
    rdropWhile_written digit_standard_ne true bytes
  rw [decodeStandard, hbody, if_pos, Alphabet.decode_encode value_digit_standard]
  rw [encodeStandard, List.length_append, List.length_replicate, Nat.add_sub_cancel_left]

theorem digit_urlSafe_ne : ∀ n < 64, ¬ (Alphabet.urlSafe.digit n == '=') = true := by
  decide

/-- The digits 62 and 63 of the standard alphabet are none of the other. -/
theorem value_urlSafe_digit : ∀ n < 64,
    Alphabet.urlSafe.value (Alphabet.standard.digit n) =
      if n = 62 ∨ n = 63 then none else some n := by
  decide

theorem digit_standard_eq : ∀ n < 64, (Alphabet.standard.digit n = '+' ↔ n = 62) ∧
    (Alphabet.standard.digit n = '/' ↔ n = 63) := by
  decide

/-- The digit 62 or 63 occurs in the standard text of these bytes. -/
theorem mem_standard_iff {bytes : Bytes} :
    '+' ∈ Alphabet.standard.encode bytes ∨ '/' ∈ Alphabet.standard.encode bytes ↔
      ∃ n ∈ sextets bytes, n = 62 ∨ n = 63 := by
  unfold Alphabet.encode
  rw [List.mem_map, List.mem_map]
  constructor
  · rintro (⟨n, hn, hdigit⟩ | ⟨n, hn, hdigit⟩)
    · exact ⟨n, hn, Or.inl ((digit_standard_eq n (sextets_lt bytes n hn)).1.mp hdigit)⟩
    · exact ⟨n, hn, Or.inr ((digit_standard_eq n (sextets_lt bytes n hn)).2.mp hdigit)⟩
  · rintro ⟨n, hn, rfl | rfl⟩
    · exact Or.inl ⟨62, hn, rfl⟩
    · exact Or.inr ⟨63, hn, rfl⟩

/-- Without these digits the text is the same in both alphabets. -/
theorem decodeUrlSafe_standard {bytes : Bytes} (h : ∀ n ∈ sextets bytes, ¬ (n = 62 ∨ n = 63)) :
    decodeUrlSafe (Alphabet.standard.encode bytes) = some bytes := by
  have hread : ((sextets bytes).map Alphabet.standard.digit).mapM Alphabet.urlSafe.value =
      some (sextets bytes) := by
    have hall : ∀ l : List Nat, (∀ n ∈ l, n < 64 ∧ ¬ (n = 62 ∨ n = 63)) →
        (l.map Alphabet.standard.digit).mapM Alphabet.urlSafe.value = some l := by
      intro l hl
      induction l with
      | nil => rfl
      | cons n l ih =>
          obtain ⟨⟨hlt, hn⟩, hl⟩ := List.forall_mem_cons.mp hl
          rw [List.map_cons, List.mapM_cons, value_urlSafe_digit n hlt, if_neg hn, ih hl]
          rfl
    exact hall _ fun n hn => ⟨sextets_lt bytes n hn, h n hn⟩
  rw [decodeUrlSafe, Alphabet.decode, Alphabet.encode, hread, Option.bind_some, ofSextets_sextets]

theorem decodeUrlSafe_standard_eq_none {bytes : Bytes}
    (h : ∃ n ∈ sextets bytes, n = 62 ∨ n = 63) :
    decodeUrlSafe (Alphabet.standard.encode bytes) = none := by
  have hread : ∀ l : List Nat, (∀ n ∈ l, n < 64) → (∃ n ∈ l, n = 62 ∨ n = 63) →
      (l.map Alphabet.standard.digit).mapM Alphabet.urlSafe.value = none := by
    intro l hl hbad
    induction l with
    | nil =>
        obtain ⟨n, hn, -⟩ := hbad
        cases hn
    | cons n l ih =>
        obtain ⟨hlt, hl⟩ := List.forall_mem_cons.mp hl
        rw [List.map_cons, List.mapM_cons, value_urlSafe_digit n hlt]
        split
        · rfl
        · next hn =>
            have hrest : ∃ n ∈ l, n = 62 ∨ n = 63 := by
              obtain ⟨m, hm, hbad⟩ := hbad
              rcases List.mem_cons.mp hm with rfl | hm
              · exact absurd hbad hn
              · exact ⟨m, hm, hbad⟩
            rw [ih hl hrest]
            rfl
  rw [decodeUrlSafe, Alphabet.decode, Alphabet.encode, hread _ (sextets_lt bytes) h]
  rfl

/-- Unpadded, only whole groups are read by the padded reader. -/
theorem decodeStandard_unpadded (bytes : Bytes) :
    decodeStandard (Alphabet.standard.encode bytes) =
      if bytes.length % 3 = 0 then some bytes else none := by
  have hbody : (Alphabet.standard.encode bytes).rdropWhile (· == '=') =
      Alphabet.standard.encode bytes := rdropWhile_written digit_standard_ne false bytes
  have hlength : padding (Alphabet.standard.encode bytes).length = 0 ↔ bytes.length % 3 = 0 := by
    rw [padding_eq_zero, Alphabet.encode, List.length_map, length_sextets_mod]
  rw [decodeStandard, hbody, Nat.sub_self, Alphabet.decode_encode value_digit_standard]
  exact if_congr (eq_comm.trans hlength) rfl rfl

theorem encodeUrlSafe_ne_nil {bytes : Bytes} (h : bytes ≠ []) : encodeUrlSafe bytes ≠ [] := by
  intro he
  have hd := decodeUrlSafe_encodeUrlSafe bytes
  rw [he] at hd
  exact h (Option.some.inj hd).symm

end Text
