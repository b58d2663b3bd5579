/-
# `CommerceOrchestrator.Api.KeyMaterial` — key material in any flavour of base64

Seeds and coordinates are read without their padding in the alphabet for URLs, and as they
stand in the standard one.  A text in the standard alphabet without padding is left between
the two as soon as it is no whole number of groups and has a digit of its own alphabet.
-/
import CommerceOrchestrator.Api.SigningRoundTrip

namespace Orchestrator

open Text

/-- These bytes in one of the flavours, and white space around. -/
inductive Flavoured (bytes : Bytes) : Chars → Prop
  | text {A : Alphabet} (hA : A = .standard ∨ A = .urlSafe) (padded : Bool) {before after : Chars}
      (hbefore : ∀ c ∈ before, isWhitespace c = true)
      (hafter : ∀ c ∈ after, isWhitespace c = true) :
      Flavoured bytes (before ++ A.written padded bytes ++ after)

/-- What an operator can do with a text that stands for some bytes: it is a coordinate of a
key, and a seed when it is as long as one. -/
structure Usable (C : SignatureCrates) (bytes : Bytes) (text : Chars) : Prop where
  decoded : decodeBase64 text = some bytes
  coordinate : ∀ kid name, PublicKey.coordinate kid (some text) name = .ok bytes
  seed : bytes.length = 32 → ∀ (kid : Chars) (named : trimmed kid ≠ []),
    buildKey C { kid, algorithm := .edDsa, secret := text } =
      .ok ⟨kid, .ed25519 (C.ed25519OfSeed bytes), named⟩

section Flavours

variable {C : SignatureCrates} {bytes : Bytes} {text : Chars}

/-- A text is of use as soon as it is read. -/
theorem usable_iff : Usable C bytes text ↔ decodeBase64 text = some bytes := by
  refine ⟨Usable.decoded, fun h => ⟨h, fun kid name => ?_, fun hlength kid named => ?_⟩⟩
  · rw [PublicKey.coordinate, Option.bind_some, h]
  · rw [buildKey, dif_neg named, h]
    exact if_neg (not_not_intro hlength)

theorem mem_written {A : Alphabet} (hA : A = .standard ∨ A = .urlSafe) {padded : Bool} {c : Char}
    (h : c ∈ A.written padded bytes) : isBase64 c = true ∨ c = '=' := by
  have hdigit : ∀ n < 64, isBase64 (A.digit n) = true := by
    rcases hA with rfl | rfl
    · exact isBase64_standard
    · exact isBase64_urlSafe
  have hbody : ∀ c ∈ A.encode bytes, isBase64 c = true := by
    intro c hc
    obtain ⟨n, hn, rfl⟩ := List.mem_map.mp hc
    exact hdigit n (sextets_lt bytes n hn)
  cases padded with
  | false => exact Or.inl (hbody c h)
  | true =>
      rcases List.mem_append.mp h with h | h
      · exact Or.inl (hbody c h)
      · exact Or.inr (List.eq_of_mem_replicate h)

/-- What surrounds a text is cut off, and nothing of it. -/
theorem trimmed_written {A : Alphabet} (hA : A = .standard ∨ A = .urlSafe)
    {before after : Chars} (hbefore : ∀ c ∈ before, isWhitespace c = true)
    (hafter : ∀ c ∈ after, isWhitespace c = true) (padded : Bool) :
    trimmed (before ++ A.written padded bytes ++ after) = A.written padded bytes := by
  rw [trimmed, strip_append_right hafter, strip_append_left hbefore]
  apply strip_eq_self_of_forall
  exact fun c hc => (base64_char (mem_written hA hc)).2

theorem written_ne_nil (hne : bytes ≠ []) (A : Alphabet) (padded : Bool) :
    A.written padded bytes ≠ [] := by
  have hbody : A.encode bytes ≠ [] := by
    intro hnil
    have hdecode := ofSextets_sextets bytes
    rw [List.map_eq_nil_iff.mp hnil] at hdecode
    exact hne (Option.some.inj hdecode).symm
  cases padded with
  | false => exact hbody
  | true => exact List.append_ne_nil_of_left_ne_nil hbody _

/-- The two readers, one after the other. -/
theorem decodeBase64_written (hne : bytes ≠ []) {A : Alphabet} (hA : A = .standard ∨ A = .urlSafe)
    {before after : Chars} (hbefore : ∀ c ∈ before, isWhitespace c = true)
    (hafter : ∀ c ∈ after, isWhitespace c = true) (padded : Bool) :
    decodeBase64 (before ++ A.written padded bytes ++ after) =
      (decodeUrlSafe (A.encode bytes)).or (decodeStandard (A.written padded bytes)) := by
  have hpadding : ∀ n < 64, ¬ (A.digit n == '=') = true := by
    rcases hA with rfl | rfl
    · exact digit_standard_ne
    · exact digit_urlSafe_ne
  rw [decodeBase64, trimmed_written hA hbefore hafter, if_neg (written_ne_nil hne A padded),
    rdropWhile_written hpadding]

theorem decodeBase64_urlSafe (hne : bytes ≠ []) (padded : Bool) {before after : Chars}
    (hbefore : ∀ c ∈ before, isWhitespace c = true) (hafter : ∀ c ∈ after, isWhitespace c = true) :
    decodeBase64 (before ++ Alphabet.urlSafe.written padded bytes ++ after) = some bytes := by
  rw [decodeBase64_written hne (Or.inr rfl) hbefore hafter]
  exact congrArg (Option.or · _) (decodeUrlSafe_encodeUrlSafe bytes)

/-- Without padding, whole groups are read, and what is the same in both alphabets. -/
theorem decodeBase64_standard_unpadded (hne : bytes ≠ []) {before after : Chars}
    (hbefore : ∀ c ∈ before, isWhitespace c = true) (hafter : ∀ c ∈ after, isWhitespace c = true) :
    decodeBase64 (before ++ Alphabet.standard.written false bytes ++ after) = some bytes ↔
      bytes.length % 3 = 0 ∨
        ('+' ∉ Alphabet.standard.encode bytes ∧ '/' ∉ Alphabet.standard.encode bytes) := by
  have hread : decodeStandard (Alphabet.standard.written false bytes) =
      if bytes.length % 3 = 0 then some bytes else none := decodeStandard_unpadded bytes
  rw [decodeBase64_written hne (Or.inl rfl) hbefore hafter, hread, ← not_or, mem_standard_iff]
  by_cases hdigits : ∃ n ∈ sextets bytes, n = 62 ∨ n = 63
  · rw [decodeUrlSafe_standard_eq_none hdigits, Option.none_or]
    by_cases hgroups : bytes.length % 3 = 0
    · simp [hgroups]
    · simp [hgroups, hdigits]
  · have hplain : ∀ n ∈ sextets bytes, ¬ (n = 62 ∨ n = 63) := fun n hn h => hdigits ⟨n, hn, h⟩
    rw [decodeUrlSafe_standard hplain]
    exact ⟨fun _ => Or.inr hdigits, fun _ => rfl⟩

/-- With its padding, a text is read in either alphabet. -/
theorem decodeBase64_standard_padded (hne : bytes ≠ []) {before after : Chars}
    (hbefore : ∀ c ∈ before, isWhitespace c = true) (hafter : ∀ c ∈ after, isWhitespace c = true) :
    decodeBase64 (before ++ Alphabet.standard.written true bytes ++ after) = some bytes := by
  have hread : decodeStandard (Alphabet.standard.written true bytes) = some bytes :=
    decodeStandard_encodeStandard bytes
  rw [decodeBase64_written hne (Or.inl rfl) hbefore hafter, hread]
  by_cases hdigits : ∃ n ∈ sextets bytes, n = 62 ∨ n = 63
  · rw [decodeUrlSafe_standard_eq_none hdigits, Option.none_or]
  · have hplain : ∀ n ∈ sextets bytes, ¬ (n = 62 ∨ n = 63) := fun n hn h => hdigits ⟨n, hn, h⟩
    rw [decodeUrlSafe_standard hplain]
    rfl

end Flavours

/-- Every flavour of some bytes can be used exactly when they are whole groups, or have no
digit on which the alphabets differ. -/
theorem flavours_usable_iff (C : SignatureCrates) {bytes : Bytes} (hne : bytes ≠ []) :
    (∀ text, Flavoured bytes text → Usable C bytes text) ↔
      bytes.length % 3 = 0 ∨
        ('+' ∉ Alphabet.standard.encode bytes ∧ '/' ∉ Alphabet.standard.encode bytes) := by
  have hnil : ∀ c ∈ ([] : Chars), isWhitespace c = true := fun c h => nomatch h
  constructor
  · intro h
    have hbare := (h _ (Flavoured.text (Or.inl rfl) false hnil hnil)).decoded
    exact (decodeBase64_standard_unpadded hne hnil hnil).mp hbare
  · rintro h text ⟨hA, padded, hbefore, hafter⟩
    rw [usable_iff]
    rcases hA with rfl | rfl
    · cases padded with
      | true => exact decodeBase64_standard_padded hne hbefore hafter
      | false => exact (decodeBase64_standard_unpadded hne hbefore hafter).mpr h
    · exact decodeBase64_urlSafe hne padded hbefore hafter

theorem flavours_usable_hi :
    (∀ text, Flavoured [0x68, 0x69] text → Usable AgentMessage.crates [0x68, 0x69] text) ↔
      ([0x68, 0x69] : Bytes).length % 3 = 0 ∨
        ('+' ∉ Alphabet.standard.encode [0x68, 0x69] ∧
          '/' ∉ Alphabet.standard.encode [0x68, 0x69]) :=
  flavours_usable_iff AgentMessage.crates (by decide)

/-- A seed whose text has a `/`, in the standard alphabet without padding. -/
def slashedSeed : Bytes := List.replicate 32 0xff

theorem slashed_seed_refused :
    Flavoured slashedSeed (Alphabet.standard.encode slashedSeed) ∧
      decodeBase64 (Alphabet.standard.encode slashedSeed) = none ∧
      ¬ ∀ text, Flavoured slashedSeed text → Usable AgentMessage.crates slashedSeed text := by
  have hnil : ∀ c ∈ ([] : Chars), isWhitespace c = true := fun c h => nomatch h
  have hflavour : Flavoured slashedSeed (Alphabet.standard.encode slashedSeed) := by
    have h : Flavoured slashedSeed ([] ++ Alphabet.standard.written false slashedSeed ++ []) :=
      Flavoured.text (Or.inl rfl) false hnil hnil
    rwa [List.nil_append, List.append_nil] at h
  have hnone : decodeBase64 (Alphabet.standard.encode slashedSeed) = none := by decide +kernel
  refine ⟨hflavour, hnone, fun h => ?_⟩
  have hread := (h _ hflavour).decoded
  rw [hnone] at hread
  cases hread

end Orchestrator
