import Mathlib.Data.Nat.Digits.Defs
import StreamConformance.Config

/-!
# What settings ask for

A setting asks for a number if it is a numeral: an optional `+` and one or more ASCII digits, with
any number of leading zeros, that denote a positive number of at most 64 bits. Digits are read from
the left, and the reader gives up as soon as the number read is too large. Nothing is lost by that,
since a number only grows with its digits.

## Main definitions

* `Numeral.Denotes` — the numerals, each with the number that it denotes.
* `Config.Asks` — what the content of a variable asks for.
* `Config.Reading` — the number that is taken from the content of a variable.

## Main results

* `Numeral.parse?_eq_some_iff` — what is read are the numerals of at most 64 bits.
* `Config.ofSettings_reading` — the configuration, for all settings.
-/

namespace StreamConformance

namespace Numeral

/-! ### Digits -/

/-- The byte is an ASCII digit. -/
def IsDigit (b : UInt8) : Prop := 48 ≤ b.toNat ∧ b.toNat ≤ 57

/-- The number that a digit denotes. -/
def digitValue (b : UInt8) : Nat := b.toNat - 48

/-- The number that digits denote. -/
def value (digits : List UInt8) : Nat := Nat.ofDigits 10 (digits.reverse.map digitValue)

@[simp] theorem value_nil : value [] = 0 := rfl

/-- A digit in front weighs as much as there are numbers with the digits behind it. -/
theorem value_cons (b : UInt8) (digits : List UInt8) :
    value (b :: digits) = digitValue b * 10 ^ digits.length + value digits := by
  rw [value, List.reverse_cons, List.map_append, Nat.ofDigits_append, List.map_singleton,
    Nat.ofDigits_singleton, List.length_map, List.length_reverse, value]
  ring

theorem digit?_eq_some_iff {b : UInt8} {d : Nat} :
    digit? b = some d ↔ IsDigit b ∧ digitValue b = d := by
  unfold digit? IsDigit digitValue
  split
  · simp_all
  · simp_all

/-- What is read of more digits, behind those of a number that fits. A number that is too large does
not become smaller by the digits that follow. -/
theorem extend?_eq_some_iff {n v : Nat} (hn : n < UInt64.size) (digits : List UInt8) :
    extend? n digits = some v ↔
      (∀ b ∈ digits, IsDigit b) ∧ n * 10 ^ digits.length + value digits = v ∧ v < UInt64.size := by
  induction digits generalizing n with
  | nil =>
    simp only [extend?, Option.some.injEq, List.not_mem_nil, false_implies, implies_true,
      List.length_nil, pow_zero, mul_one, value_nil, add_zero, true_and]
    exact ⟨fun h => ⟨h, h ▸ hn⟩, And.left⟩
  | cons b digits ih =>
    have hweight : (10 * n + digitValue b) * 10 ^ digits.length + value digits =
        n * 10 ^ (b :: digits).length + value (b :: digits) := by
      rw [value_cons, List.length_cons]
      ring
    rw [extend?, List.forall_mem_cons]
    cases hd : digit? b with
    | none =>
      have hb : ¬IsDigit b := fun hb => by
        simp [digit?_eq_some_iff.mpr ⟨hb, rfl⟩] at hd
      simp [hb]
    | some d =>
      obtain ⟨hb, rfl⟩ := digit?_eq_some_iff.mp hd
      dsimp only
      split
      next hfits => rw [ih hfits, hweight, and_iff_right hb]
      next hlarge =>
        have hle : 10 * n + digitValue b ≤ n * 10 ^ (b :: digits).length + value (b :: digits) :=
          calc 10 * n + digitValue b
              ≤ (10 * n + digitValue b) * 10 ^ digits.length :=
                Nat.le_mul_of_pos_right _ (by positivity)
            _ ≤ (10 * n + digitValue b) * 10 ^ digits.length + value digits := Nat.le_add_right ..
            _ = n * 10 ^ (b :: digits).length + value (b :: digits) := hweight
        constructor
        · simp
        · rintro ⟨-, hv, hfits⟩
          omega

/-! ### Numerals -/

/-- The numerals, each with the number that it denotes: one or more digits, with or without a `+`
in front of them. -/
inductive Denotes : List UInt8 → Nat → Prop where
  | plain {digits : List UInt8} (hne : digits ≠ []) (hdigits : ∀ b ∈ digits, IsDigit b) :
    Denotes digits (value digits)
  | signed {digits : List UInt8} (hne : digits ≠ []) (hdigits : ∀ b ∈ digits, IsDigit b) :
    Denotes (43 :: digits) (value digits)

theorem digits?_eq_some_iff {digits : List UInt8} {v : Nat} : digits? digits = some v ↔
    digits ≠ [] ∧ (∀ b ∈ digits, IsDigit b) ∧ value digits = v ∧ v < UInt64.size := by
  cases digits with
  | nil => simp [digits?]
  | cons b digits => simp [digits?, extend?_eq_some_iff (by decide : 0 < UInt64.size)]

/-- What is read are the numerals of numbers that fit. -/
theorem parse?_eq_some_iff {bytes : List UInt8} {v : Nat} :
    parse? bytes = some v ↔ Denotes bytes v ∧ v < UInt64.size := by
  constructor
  · intro h
    unfold parse? at h
    split at h
    next digits =>
      obtain ⟨hne, hdigits, rfl, hfits⟩ := digits?_eq_some_iff.mp h
      exact ⟨.signed hne hdigits, hfits⟩
    next =>
      obtain ⟨hne, hdigits, rfl, hfits⟩ := digits?_eq_some_iff.mp h
      exact ⟨.plain hne hdigits, hfits⟩
  · rintro ⟨hdenotes, hfits⟩
    cases hdenotes with
    | signed hne hdigits => exact digits?_eq_some_iff.mpr ⟨hne, hdigits, rfl, hfits⟩
    | plain hne hdigits =>
      unfold parse?
      split
      next digits =>
        have hsign : 48 ≤ (43 : UInt8).toNat := (hdigits 43 List.mem_cons_self).1
        exact absurd hsign (by decide)
      next => exact digits?_eq_some_iff.mpr ⟨hne, hdigits, rfl, hfits⟩

theorem isValidUTF8_of_ascii {bytes : List UInt8} (h : ∀ b ∈ bytes, b.toNat < 128) :
    bytes.toByteArray.IsValidUTF8 := by
  induction bytes with
  | nil => exact ByteArray.isValidUTF8_empty
  | cons b bytes ih =>
    obtain ⟨hb, hbytes⟩ := List.forall_mem_cons.mp h
    have hval : (Char.ofUInt8 b).val = b.toUInt32 := rfl
    have hsize : (Char.ofUInt8 b).utf8Size = 1 :=
      Char.utf8Size_eq_one_iff.mpr <| UInt32.le_iff_toNat_le.mpr <| by
        simpa [hval] using Nat.le_of_lt_succ hb
    have hchar : String.utf8EncodeChar (Char.ofUInt8 b) = [b] := by
      rw [String.utf8EncodeChar_eq_singleton hsize]
      simp [hval]
    have hfirst : [b].toByteArray.IsValidUTF8 := hchar ▸ Char.isValidUTF8_toByteArray_utf8EncodeChar
    rw [← List.singleton_append, List.toByteArray_append]
    exact hfirst.append (ih hbytes)

theorem Denotes.isValidUTF8 {bytes : List UInt8} {v : Nat} (h : Denotes bytes v) :
    bytes.toByteArray.IsValidUTF8 := by
  refine isValidUTF8_of_ascii fun b hb => ?_
  cases h with
  | plain hne hdigits => exact Nat.lt_of_le_of_lt (hdigits b hb).2 (by decide)
  | signed hne hdigits =>
    rcases List.mem_cons.mp hb with rfl | hb
    · decide
    · exact Nat.lt_of_le_of_lt (hdigits b hb).2 (by decide)

end Numeral

namespace Config

/-- The content of a variable asks for a number: it is a numeral that denotes it, and the number is
positive and has at most 64 bits. -/
def Asks (content : Option (List UInt8)) (v : Nat) : Prop :=
  ∃ bytes, content = some bytes ∧ Numeral.Denotes bytes v ∧ 1 ≤ v ∧ v ≤ 2 ^ 64 - 1

/-- The number `v` is what is taken from the content of a variable, where `standard` is the standard
value. -/
structure Reading (standard : Nat) (content : Option (List UInt8)) (v : Nat) : Prop where
  /-- It is what the content asks for, and the standard value if it asks for nothing. -/
  eq_iff : ∀ w, v = w ↔ Asks content w ∨ w = standard ∧ ∀ u, ¬Asks content u
  /-- A content that is no text asks for nothing. -/
  of_noText : ∀ bytes, content = some bytes → ¬bytes.toByteArray.IsValidUTF8 → v = standard
  pos : 0 < v

variable {standard : Nat} {content : Option (List UInt8)}

/-- What a content asks for is what it is read as, where that is positive. -/
theorem asks_iff {v : Nat} : Asks content v ↔ content.bind Numeral.parse? = some v ∧ 0 < v := by
  simp only [Asks, Option.bind_eq_some_iff, Numeral.parse?_eq_some_iff, UInt64.size]
  constructor
  · rintro ⟨bytes, hcontent, hdenotes, hpos, hfits⟩
    exact ⟨⟨bytes, hcontent, hdenotes, by omega⟩, hpos⟩
  · rintro ⟨⟨bytes, hcontent, hdenotes, hfits⟩, hpos⟩
    exact ⟨bytes, hcontent, hdenotes, hpos, by omega⟩

theorem positiveOr_of_asks {v : Nat} (h : Asks content v) (standard : Nat) :
    positiveOr standard content = v := by
  obtain ⟨hparse, hpos⟩ := asks_iff.mp h
  rw [positiveOr, hparse]
  exact if_pos hpos

/-- A content that asks for nothing is taken as the standard value. -/
theorem positiveOr_of_not_asks (h : ∀ v, ¬Asks content v) (standard : Nat) :
    positiveOr standard content = standard := by
  unfold positiveOr
  split
  next n hparse => exact if_neg fun hpos => h n (asks_iff.mpr ⟨hparse, hpos⟩)
  next => rfl

theorem reading_positiveOr (hstandard : 0 < standard) (content : Option (List UInt8)) :
    Reading standard content (positiveOr standard content) := by
  by_cases hasks : ∃ v, Asks content v
  · obtain ⟨v, hv⟩ := hasks
    rw [positiveOr_of_asks hv]
    exact {
      eq_iff := fun w =>
        ⟨fun h => .inl (h ▸ hv), fun h => h.elim
          (fun hw => (positiveOr_of_asks hv 0).symm.trans (positiveOr_of_asks hw 0))
          fun hw => absurd hv (hw.2 v)⟩
      of_noText := fun bytes hcontent hinvalid => by
        obtain ⟨bytes', hcontent', hdenotes, -⟩ := hv
        obtain rfl := Option.some.inj (hcontent.symm.trans hcontent')
        exact absurd hdenotes.isValidUTF8 hinvalid
      pos := (asks_iff.mp hv).2 }
  · have hnone := not_exists.mp hasks
    rw [positiveOr_of_not_asks hnone]
    exact {
      eq_iff := fun w =>
        ⟨fun h => .inr ⟨h.symm, hnone⟩, fun h => h.elim (absurd · (hnone w)) fun hw => hw.1.symm⟩
      of_noText := fun _ _ _ => rfl
      pos := hstandard }

example : positiveOr standardCapacity (some "+0012".toUTF8.toList) = 12 := by decide +kernel

/-- The configuration that settings ask for: each of its parts is taken from one variable, whatever
the other one holds, and none is zero. -/
theorem ofSettings_reading (settings : Settings) :
    (∃ millis, (ofSettings settings).timeout = .ofMillis millis ∧
      Reading 100 (settings timeoutSetting) millis) ∧
    Reading 32 (settings capacitySetting) (ofSettings settings).capacity ∧
    ∀ other : Settings,
      (other timeoutSetting = settings timeoutSetting →
        (ofSettings other).timeout = (ofSettings settings).timeout) ∧
      (other capacitySetting = settings capacitySetting →
        (ofSettings other).capacity = (ofSettings settings).capacity) := by
  refine ⟨⟨_, rfl, reading_positiveOr (by decide) _⟩, reading_positiveOr (by decide) _,
    fun other => ⟨fun h => ?_, fun h => ?_⟩⟩
  · simp only [ofSettings, h]
  · simp only [ofSettings, h]

end Config

end StreamConformance
