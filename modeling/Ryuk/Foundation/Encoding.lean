import Ryuk.Foundation.Text

/-!
# Bytes as text

Bytes are written as hexadecimal digits or in the URL-safe alphabet of base64, and text is cut
at separators.  What is written in hexadecimal digits is read back, and neither alphabet has
white space.
-/

namespace Ryuk
namespace Foundation
namespace Encoding

open Text

/-! ### Hexadecimal digits -/

/-- Two digits a byte. -/
def hexChars : List UInt8 → List Char
  | [] => []
  | byte :: rest =>
      Nat.digitChar (byte.toNat / 16) :: Nat.digitChar (byte.toNat % 16) :: hexChars rest

/-- `data.hex()`. -/
def hexText (bytes : List UInt8) : String := String.ofList (hexChars bytes)

/-- The value of a digit of either case. -/
def hexValue (c : Char) : Option Nat :=
  let code := c.toNat
  if 48 ≤ code ∧ code ≤ 57 then some (code - 48)
  else if 97 ≤ code ∧ code ≤ 102 then some (code - 87)
  else if 65 ≤ code ∧ code ≤ 70 then some (code - 55)
  else none

/-- White space of ASCII. -/
def isAsciiSpace (c : Char) : Bool :=
  decide (c.toNat = 32) || (decide (9 ≤ c.toNat) && decide (c.toNat ≤ 13))

/-- The bytes of digits.  White space may stand before and after every byte. -/
def readHex : List Char → Option (List UInt8)
  | [] => some []
  | [last] => if isAsciiSpace last then some [] else none
  | first :: second :: rest =>
      if isAsciiSpace first then readHex (second :: rest)
      else
        match hexValue first, hexValue second with
        | some high, some low => (readHex rest).map fun bytes => UInt8.ofNat (16 * high + low) :: bytes
        | _, _ => none

/-- `bytes.fromhex(text)`. -/
def fromHex (text : String) : Option (List UInt8) := readHex text.toList

/-- What a digit is and is not. -/
theorem digitChar_spec : ∀ value < 16, hexValue (Nat.digitChar value) = some value ∧
    isAsciiSpace (Nat.digitChar value) = false ∧ isSpace (Nat.digitChar value) = false ∧
      Nat.digitChar value ≠ '_' ∧ (Nat.digitChar value).toNat < 128 := by decide

theorem readHex_hexChars (bytes : List UInt8) : readHex (hexChars bytes) = some bytes := by
  induction bytes with
  | nil => rfl
  | cons byte rest ih =>
      have hbyte : byte.toNat < 256 := byte.toNat_lt
      obtain ⟨hhigh, hspace, -⟩ := digitChar_spec (byte.toNat / 16) (by omega)
      obtain ⟨hlow, -⟩ := digitChar_spec (byte.toNat % 16) (by omega)
      have hwhole : 16 * (byte.toNat / 16) + byte.toNat % 16 = byte.toNat := by omega
      unfold hexChars readHex
      rw [hspace, hhigh, hlow, ih]
      simp [hwhole]

/-- What is written in digits is read back. -/
theorem fromHex_hexText (bytes : List UInt8) : fromHex (hexText bytes) = some bytes := by
  unfold fromHex hexText
  rw [String.toList_ofList]
  exact readHex_hexChars bytes

theorem hexText_injective {left right : List UInt8} (h : hexText left = hexText right) :
    left = right := by
  have hread := fromHex_hexText left
  rw [h, fromHex_hexText] at hread
  exact (Option.some.inj hread).symm

/-- Every character of a text in digits is a digit. -/
theorem digit_of_hexChars {bytes : List UInt8} {c : Char} (h : c ∈ hexChars bytes) :
    ∃ value < 16, c = Nat.digitChar value := by
  induction bytes with
  | nil => cases h
  | cons byte rest ih =>
      have hbyte : byte.toNat < 256 := byte.toNat_lt
      rcases List.mem_cons.mp h with rfl | h
      · exact ⟨byte.toNat / 16, by omega, rfl⟩
      rcases List.mem_cons.mp h with rfl | h
      · exact ⟨byte.toNat % 16, by omega, rfl⟩
      · exact ih h

theorem hexChars_underscore {bytes : List UInt8} : '_' ∉ hexChars bytes := by
  intro h
  obtain ⟨value, hsmall, heq⟩ := digit_of_hexChars h
  exact (digitChar_spec value hsmall).2.2.2.1 heq.symm

theorem hexChars_ascii {bytes : List UInt8} {c : Char} (h : c ∈ hexChars bytes) :
    c.toNat < 128 := by
  obtain ⟨value, hsmall, rfl⟩ := digit_of_hexChars h
  exact (digitChar_spec value hsmall).2.2.2.2

/-! ### UTF-8 -/

/-- `text.encode()`. -/
def utf8Bytes (text : String) : List UInt8 := text.toUTF8.data.toList

/-! ### Base64 -/

/-- The URL-safe alphabet. -/
def urlsafeChar (value : Nat) : Char :=
  if value < 26 then Char.ofNat (65 + value)
  else if value < 52 then Char.ofNat (71 + value)
  else if value < 62 then Char.ofNat (value - 4)
  else if value = 62 then '-'
  else '_'

/-- Four characters for three bytes, and no padding at the end. -/
def urlsafeChars : List UInt8 → List Char
  | [] => []
  | [a] => [urlsafeChar (a.toNat / 4), urlsafeChar (a.toNat % 4 * 16)]
  | [a, b] =>
      [urlsafeChar (a.toNat / 4), urlsafeChar (a.toNat % 4 * 16 + b.toNat / 16),
        urlsafeChar (b.toNat % 16 * 4)]
  | a :: b :: c :: rest =>
      urlsafeChar (a.toNat / 4) :: urlsafeChar (a.toNat % 4 * 16 + b.toNat / 16) ::
        urlsafeChar (b.toNat % 16 * 4 + c.toNat / 64) :: urlsafeChar (c.toNat % 64) ::
          urlsafeChars rest

/-- `base64.urlsafe_b64encode(data).rstrip(b"=").decode("ascii")`. -/
def urlsafeText (bytes : List UInt8) : String := String.ofList (urlsafeChars bytes)

/-! ### White space -/

/-- `text.partition(separator)`, when the separator is there. -/
def cutAt (separator : Char) : List Char → Option (List Char × List Char)
  | [] => none
  | c :: rest =>
      if c = separator then some ([], rest)
      else (cutAt separator rest).map fun parts => (c :: parts.1, parts.2)

/-- `text.split(separator, count)`. -/
def splitAtMost (separator : Char) : Nat → List Char → List (List Char)
  | 0, text => [text]
  | count + 1, text =>
      match cutAt separator text with
      | none => [text]
      | some (before, after) => before :: splitAtMost separator count after

section Separators

variable {separator : Char} {text before after first second third : List Char}

/-- A text is cut at the first separator. -/
theorem cutAt_iff : cutAt separator text = some (before, after) ↔
    text = before ++ separator :: after ∧ separator ∉ before := by
  induction text generalizing before with
  | nil => simp [cutAt]
  | cons c rest ih =>
      unfold cutAt
      by_cases h : c = separator
      · subst h
        rw [if_pos rfl]
        cases before with
        | nil => simp [eq_comm]
        | cons found tail =>
            simp only [Option.some.injEq, Prod.mk.injEq, List.cons_append, List.cons.injEq]
            constructor
            · rintro ⟨hnil, -⟩
              cases hnil
            · rintro ⟨⟨rfl, -⟩, hnot⟩
              exact (hnot List.mem_cons_self).elim
      · rw [if_neg h, Option.map_eq_some_iff]
        cases before with
        | nil =>
            constructor
            · rintro ⟨parts, -, hparts⟩
              cases hparts
            · rintro ⟨heq, -⟩
              exact (h (List.cons.inj heq).1).elim
        | cons found tail =>
            constructor
            · rintro ⟨parts, hcut, hparts⟩
              injection hparts with hbefore hafter
              injection hbefore with hfound htail
              obtain ⟨heq, hnot⟩ := ih.mp (hcut.trans (congrArg some (Prod.ext htail hafter)))
              refine ⟨by rw [heq, hfound]; rfl, ?_⟩
              rw [List.mem_cons, not_or]
              exact ⟨fun hsame => h (hfound.trans hsame.symm), hnot⟩
            · rintro ⟨heq, hnot⟩
              injection heq with hfound hrest
              rw [List.mem_cons, not_or] at hnot
              exact ⟨(tail, after), ih.mpr ⟨hrest, hnot.2⟩, by rw [hfound]⟩

theorem splitAtMost_one : splitAtMost separator 1 text = [first, second] ↔
    text = first ++ separator :: second ∧ separator ∉ first := by
  unfold splitAtMost
  cases hcut : cutAt separator text with
  | none =>
      rw [← cutAt_iff, hcut]
      simp
  | some parts =>
      rw [← cutAt_iff, hcut]
      simp [splitAtMost, Prod.ext_iff]

/-- The three parts of a text that is cut twice: only the last may have the separator. -/
theorem splitAtMost_two : splitAtMost separator 2 text = [first, second, third] ↔
    text = first ++ separator :: (second ++ separator :: third) ∧ separator ∉ first ∧
      separator ∉ second := by
  unfold splitAtMost
  cases hcut : cutAt separator text with
  | none =>
      constructor
      · intro h
        cases h
      · rintro ⟨heq, hfirst, -⟩
        rw [cutAt_iff.mpr ⟨heq, hfirst⟩] at hcut
        cases hcut
  | some parts =>
      obtain ⟨before, after⟩ := parts
      show before :: splitAtMost separator 1 after = _ ↔ _
      rw [List.cons.injEq, splitAtMost_one]
      obtain ⟨hparts, hbefore⟩ := cutAt_iff.mp hcut
      constructor
      · rintro ⟨rfl, rfl, hsecond⟩
        exact ⟨hparts, hbefore, hsecond⟩
      · rintro ⟨heq, hfirst, hsecond⟩
        rw [cutAt_iff.mpr ⟨heq, hfirst⟩, Option.some.injEq, Prod.mk.injEq] at hcut
        exact ⟨hcut.1.symm, hcut.2.symm, hsecond⟩

end Separators

end Encoding
end Foundation
end Ryuk
