/-
  SnippetScope.Proofs.Json.Scalars

  Strings and numbers as they are written.  What is written between quotation
  marks holds no bare quotation mark and no bare control, so it may stand there
  (`isInner_between`), and it denotes the text it was written for
  (`textOf?_between`).  Digits are a number (`isNumber_writeNumber`) and have the
  value they were written for (`naturalOf?_writeNumber`).
-/
import SnippetScope.Json
import SnippetScope.Json.Record
import SnippetScope.Proofs.Json.Tokens
import Mathlib.Data.List.Basic

namespace SnippetScope.Json

/-! ## Strings -/

/-- What is written between the quotation marks of a string. -/
def between (text : List Char) : List Symbol := (escape text).map some

theorem between_cons (c : Char) (text : List Char) :
    between (c :: text) = (escapeChar c).map some ++ between text := by
  rw [between, escape, List.flatMap_cons, List.map_append]
  rfl

/-- The ways in which a character can be written. -/
inductive Spelling (c : Char) : List Char → Prop where
  /-- The character itself, which is neither a mark nor a control. -/
  | plain (hquote : c ≠ '"') (hslash : c ≠ '\\') (hcontrol : 32 ≤ c.toNat) : Spelling c [c]
  /-- A backslash and a letter that stands for the character. -/
  | short (e : Char) (he : e ≠ 'u') (hc : unescape? e = some c) : Spelling c ['\\', e]
  /-- The number of the character in hexadecimal digits. -/
  | coded (d e : Char) (hvalue : hexValue4? (some '0') (some '0') (some d) (some e) = some c.toNat)
      (hcontrol : c.toNat < 32) : Spelling c ['\\', 'u', '0', '0', d, e]

theorem hexValue4?_hexDigit : ∀ n < 32,
    hexValue4? (some '0') (some '0') (some (hexDigit (n / 16))) (some (hexDigit (n % 16)))
      = some n := by
  decide

theorem spelling_escapeChar (c : Char) : Spelling c (escapeChar c) := by
  rw [escapeChar]
  split_ifs with hquote hslash hfeed hreturn htab hback hform hcontrol
  · exact .short '"' (by decide) (by rw [hquote]; decide)
  · exact .short '\\' (by decide) (by rw [hslash]; decide)
  · exact .short 'n' (by decide) (by rw [hfeed]; decide)
  · exact .short 'r' (by decide) (by rw [hreturn]; decide)
  · exact .short 't' (by decide) (by rw [htab]; decide)
  · have hc : c = Char.ofNat 8 := by rw [← hback, Char.ofNat_toNat]
    exact .short 'b' (by decide) (by rw [hc]; decide)
  · have hc : c = Char.ofNat 12 := by rw [← hform, Char.ofNat_toNat]
    exact .short 'f' (by decide) (by rw [hc]; decide)
  · exact .coded _ _ (hexValue4?_hexDigit c.toNat hcontrol) hcontrol
  · exact .plain hquote hslash (by omega)

theorem IsInner.spelling {c : Char} {written : List Char} (h : Spelling c written)
    {rest : List Symbol} (hrest : IsInner rest) : IsInner (written.map some ++ rest) := by
  cases h with
  | plain hquote hslash hcontrol => exact .plain hquote hslash hcontrol hrest
  | short e he hc => exact .short (by rw [hc]; rfl) hrest
  | coded d e hvalue hcontrol => exact .coded (by rw [hvalue]; rfl) hrest

/-- What is written for a text may stand between quotation marks. -/
theorem isInner_between (text : List Char) : IsInner (between text) := by
  induction text with
  | nil => exact .nil
  | cons c text ih =>
      rw [between_cons]
      exact .spelling (spelling_escapeChar c) ih

variable {a b c d : Symbol}

theorem textOf?_of_not_hex (h : hexValue4? a b c d = none) (rest : List Symbol) :
    textOf? (some '\\' :: some 'u' :: a :: b :: c :: d :: rest) = none := by
  by_cases hnext : ∃ a2 b2 c2 d2 rest2,
      rest = some '\\' :: some 'u' :: a2 :: b2 :: c2 :: d2 :: rest2
  · obtain ⟨a2, b2, c2, d2, rest2, rfl⟩ := hnext
    rw [textOf?, h]
  · rw [textOf?, h]
    rintro a2 b2 c2 d2 rest2 rfl
    exact hnext ⟨a2, b2, c2, d2, rest2, rfl⟩

/-- A character that is written as its number does not depend on what follows. -/
theorem textOf?_coded {n : Nat} (h : hexValue4? a b c d = some n) (hn : n < 0xD800)
    (rest : List Symbol) :
    textOf? (some '\\' :: some 'u' :: a :: b :: c :: d :: rest)
      = (textOf? rest).map (Char.ofNat n :: ·) := by
  -- Below the surrogates no number asks for a second one behind it.
  have hhigh : isHighSurrogate n = false := by
    rw [isHighSurrogate, Bool.and_eq_false_iff, decide_eq_false_iff_not]
    exact .inl (by omega)
  have hlow : isLowSurrogate n = false := by
    rw [isLowSurrogate, Bool.and_eq_false_iff, decide_eq_false_iff_not]
    exact .inl (by omega)
  by_cases hnext : ∃ a2 b2 c2 d2 rest2,
      rest = some '\\' :: some 'u' :: a2 :: b2 :: c2 :: d2 :: rest2
  · obtain ⟨a2, b2, c2, d2, rest2, rfl⟩ := hnext
    rw [textOf?, h]
    cases hnumber : hexValue4? a2 b2 c2 d2 with
    | none => rw [textOf?_of_not_hex hnumber]; rfl
    | some n2 => simp only [hhigh, hlow, Bool.false_eq_true, if_false]
  · rw [textOf?, h]
    · simp only [hhigh, hlow, Bool.or_false, Bool.false_eq_true, if_false]
    · rintro a2 b2 c2 d2 rest2 rfl
      exact hnext ⟨a2, b2, c2, d2, rest2, rfl⟩

theorem textOf?_spelling {c : Char} {written : List Char} (h : Spelling c written)
    (rest : List Symbol) : textOf? (written.map some ++ rest) = (textOf? rest).map (c :: ·) := by
  cases h with
  | plain hquote hslash hcontrol =>
      simp [textOf?, hslash]
  | short e he hc =>
      simp [textOf?, he, hc]
  | coded d e hvalue hcontrol =>
      have hcoded := textOf?_coded hvalue (by omega) rest
      rw [Char.ofNat_toNat] at hcoded
      exact hcoded

/-- A string denotes the text that it was written for. -/
theorem textOf?_between (text : List Char) : textOf? (between text) = some text := by
  induction text with
  | nil => rfl
  | cons c text ih =>
      rw [between_cons, textOf?_spelling (spelling_escapeChar c), ih]
      rfl

/-! ## Numbers -/

theorem isDigit_of_mem_writeNumber {n : Nat} {c : Char} (h : c ∈ writeNumber n) :
    c.isDigit = true :=
  Nat.isDigit_of_mem_toDigits (by omega) (by omega) h

theorem writeNumber_ne_nil (n : Nat) : writeNumber n ≠ [] := by
  rw [writeNumber]
  exact Nat.toDigits_ne_nil

/-- No number but zero starts with a zero. -/
theorem head?_writeNumber {n : Nat} (hn : 0 < n) : (writeNumber n).head? ≠ some '0' := by
  have hdigit : ∀ d < 10, 0 < d → d.digitChar ≠ '0' := by decide
  induction n using Nat.strongRecOn with
  | ind n ih =>
      rw [writeNumber, Nat.toDigits_eq_if (by omega)]
      split
      · rename_i hlt
        rw [List.head?_cons, ne_eq, Option.some_inj]
        exact hdigit n hlt hn
      · rename_i hge
        have hhead := ih (n / 10) (by omega) (by omega)
        rw [writeNumber] at hhead
        rw [List.head?_append_of_ne_nil _ Nat.toDigits_ne_nil]
        exact hhead

/-- A number in decimal digits is a number. -/
theorem isNumber_writeNumber (n : Nat) : IsNumber (writeNumber n) := by
  have hdigits : AreDigits (writeNumber n) :=
    ⟨writeNumber_ne_nil n, fun c hc => isDigit_of_mem_writeNumber hc⟩
  have hwhole : IsWhole (writeNumber n) := by
    refine ⟨hdigits, fun hhead => ?_⟩
    rcases Nat.eq_zero_or_pos n with rfl | hn
    · rfl
    · exact absurd hhead (head?_writeNumber hn)
  have hparts := IsUnsigned.parts hwhole .none .none
  rw [List.append_nil, List.append_nil] at hparts
  exact .plain hparts

/-- The digits of a number have its value. -/
theorem naturalOf?_writeNumber (n : Nat) : Written.naturalOf? (writeNumber n) = some n := by
  have hdigits : (writeNumber n).all Char.isDigit = true :=
    List.all_eq_true.mpr fun c hc => isDigit_of_mem_writeNumber hc
  have hvalue : (writeNumber n).foldl (fun n c => 10 * n + (c.toNat - 48)) 0 = n :=
    Nat.ofDigitChars_ten_toDigits
  rw [Written.naturalOf?, hdigits, hvalue]
  simp [writeNumber_ne_nil]

end SnippetScope.Json
