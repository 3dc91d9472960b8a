/-
  SnippetScope.Proofs.Web.Form

  Queries as a receiver reads them.  A query is cut into parameters at each
  ampersand and a parameter into name and value at its first equals sign; in both
  plus signs and escapes stand for bytes.  Written values hold no mark that
  matters to this (`not_mem_formValue`), and they read back as the texts they were
  written for (`formText?_formValue`), so a written parameter is read as just
  that one (`parameters?_writeParameter`).
-/
import SnippetScope.Json.Syntax
import SnippetScope.Text.Lines
import SnippetScope.Web.Escape
import SnippetScope.Proofs.Text.Lines
import Mathlib.Data.List.Basic

namespace SnippetScope.Web

/-! ## Reading -/

/-- The bytes that a name or value stands for.  A plus sign is a space, and a
    percent sign with two hexadecimal digits behind it one byte. -/
def formBytes : List Char → List UInt8
  | '%' :: a :: b :: rest =>
    match Json.hexValue? (some a), Json.hexValue? (some b) with
    | some high, some low => UInt8.ofNat (16 * high + low) :: formBytes rest
    | _, _ => String.utf8EncodeChar '%' ++ formBytes (a :: b :: rest)
  | '+' :: rest => String.utf8EncodeChar ' ' ++ formBytes rest
  | c :: rest => String.utf8EncodeChar c ++ formBytes rest
  | [] => []

/-- The text of a name or value, if its bytes are one. -/
def formText? (written : List Char) : Option String :=
  String.fromUTF8? (formBytes written).toByteArray

/-- The name and the value of a parameter, around its first equals sign. -/
def parameter? (written : List Char) : Option (String × String) := do
  let name ← formText? (written.takeWhile (· != '='))
  let value ← formText? ((written.dropWhile (· != '=')).drop 1)
  return (name, value)

/-- The parameters of a query, each with its value. -/
def parameters? (query : List Char) : Option (List (String × String)) :=
  ((Text.splitAt '&' query).filter (!·.isEmpty)).mapM parameter?

/-! ## Values read back -/

theorem hexValue?_hexDigit : ∀ n < 16, Json.hexValue? (some (hexDigit n)) = some n := by
  decide

theorem formBytes_escapeByte (byte : UInt8) (rest : List Char) :
    formBytes (escapeByte byte ++ rest) = byte :: formBytes rest := by
  have hbyte : byte.toNat < 256 := byte.toNat_lt_size
  have hhigh := hexValue?_hexDigit (byte.toNat / 16) (by omega)
  have hlow := hexValue?_hexDigit (byte.toNat % 16) (by omega)
  have hwhole : 16 * (byte.toNat / 16) + byte.toNat % 16 = byte.toNat := by omega
  show formBytes ('%' :: hexDigit (byte.toNat / 16) :: hexDigit (byte.toNat % 16) :: rest) = _
  simp only [formBytes, hhigh, hlow, hwhole, UInt8.ofNat_toNat]

theorem formBytes_escapeBytes (bytes : List UInt8) (rest : List Char) :
    formBytes (bytes.flatMap escapeByte ++ rest) = bytes ++ formBytes rest := by
  induction bytes with
  | nil => rfl
  | cons byte bytes ih =>
      rw [List.flatMap_cons, List.append_assoc, formBytes_escapeByte, ih, List.cons_append]

theorem formBytes_cons {c : Char} (hpercent : c ≠ '%') (hplus : c ≠ '+') (rest : List Char) :
    formBytes (c :: rest) = String.utf8EncodeChar c ++ formBytes rest := by
  rw [formBytes]
  · intro a b rest' heq
    exact absurd heq hpercent
  · exact hplus

theorem formBytes_formChar (c : Char) (rest : List Char) :
    formBytes (formChar c ++ rest) = String.utf8EncodeChar c ++ formBytes rest := by
  rw [formChar]
  split
  · rename_i hspace
    rw [hspace]
    rfl
  · split
    · rename_i hform
      have hpercent : c ≠ '%' := by
        rintro rfl
        revert hform
        decide
      have hplus : c ≠ '+' := by
        rintro rfl
        revert hform
        decide
      exact formBytes_cons hpercent hplus rest
    · exact formBytes_escapeBytes (String.utf8EncodeChar c) rest

/-- A written value stands for the bytes of its text. -/
theorem formBytes_formValue (text : List Char) :
    formBytes (formValue text) = text.flatMap String.utf8EncodeChar := by
  induction text with
  | nil => rfl
  | cons c text ih =>
      rw [formValue, List.flatMap_cons, formBytes_formChar, List.flatMap_cons, ← ih]
      rfl

theorem fromUTF8?_utf8Encode (text : List Char) :
    String.fromUTF8? text.utf8Encode = some (String.ofList text) :=
  dif_pos (ByteArray.IsValidUTF8.intro text rfl)

theorem formText?_formValue (text : List Char) :
    formText? (formValue text) = some (String.ofList text) := by
  rw [formText?, formBytes_formValue]
  exact fromUTF8?_utf8Encode text

/-! ## Parameters read back -/

/-- The characters that written values are made of. -/
def isValueChar (c : Char) : Bool :=
  c == '+' || c == '%' || isFormChar c

theorem isFormChar_hexDigit : ∀ n < 16, isFormChar (hexDigit n) = true := by
  decide

theorem isValueChar_of_mem_escapeByte {byte : UInt8} {c : Char} (h : c ∈ escapeByte byte) :
    isValueChar c = true := by
  have hbyte : byte.toNat < 256 := byte.toNat_lt_size
  have hhigh := isFormChar_hexDigit (byte.toNat / 16) (by omega)
  have hlow := isFormChar_hexDigit (byte.toNat % 16) (by omega)
  simp only [escapeByte, List.mem_cons, List.not_mem_nil, or_false] at h
  rcases h with rfl | rfl | rfl
  · rfl
  · simp [isValueChar, hhigh]
  · simp [isValueChar, hlow]

theorem isValueChar_of_mem_formChar {c d : Char} (h : d ∈ formChar c) : isValueChar d = true := by
  rw [formChar] at h
  split at h
  · rw [List.mem_singleton.mp h]
    rfl
  · split at h
    · rename_i hform
      rw [List.mem_singleton.mp h, isValueChar, hform, Bool.or_true]
    · obtain ⟨byte, -, hmem⟩ := List.mem_flatMap.mp h
      exact isValueChar_of_mem_escapeByte hmem

/-- Whatever the text, its written value holds no other characters. -/
theorem isValueChar_of_mem_formValue {text : List Char} {c : Char} (h : c ∈ formValue text) :
    isValueChar c = true := by
  obtain ⟨d, -, hmem⟩ := List.mem_flatMap.mp h
  exact isValueChar_of_mem_formChar hmem

theorem not_mem_formValue {c : Char} (h : isValueChar c = false) (text : List Char) :
    c ∉ formValue text := by
  intro hmem
  rw [isValueChar_of_mem_formValue hmem] at h
  cases h

/-- A parameter as it is written in a query. -/
def writeParameter (name value : List Char) : List Char :=
  formValue name ++ '=' :: formValue value

theorem not_mem_writeParameter {c : Char} (hvalue : isValueChar c = false) (hequals : c ≠ '=')
    (name value : List Char) : c ∉ writeParameter name value := by
  rw [writeParameter, List.mem_append, List.mem_cons]
  rintro (hmem | rfl | hmem)
  · exact not_mem_formValue hvalue name hmem
  · exact hequals rfl
  · exact not_mem_formValue hvalue value hmem

theorem parameter?_writeParameter (name value : List Char) :
    parameter? (writeParameter name value) = some (String.ofList name, String.ofList value) := by
  have hname : ∀ c ∈ formValue name, (c != '=') = true := by
    intro c hc
    rw [bne_iff_ne]
    rintro rfl
    exact not_mem_formValue (by decide) name hc
  have hbefore : (writeParameter name value).takeWhile (· != '=') = formValue name := by
    rw [writeParameter, List.takeWhile_append_of_pos hname, List.takeWhile_cons_of_neg (by simp),
      List.append_nil]
  have hbehind : (writeParameter name value).dropWhile (· != '=') = '=' :: formValue value := by
    rw [writeParameter, List.dropWhile_append_of_pos hname, List.dropWhile_cons_of_neg (by simp)]
  rw [parameter?, hbefore, hbehind, List.drop_one, List.tail_cons, formText?_formValue,
    formText?_formValue]
  rfl

/-- A query with one written parameter is read as this parameter and nothing
    else. -/
theorem parameters?_writeParameter (name value : List Char) :
    parameters? (writeParameter name value)
      = some [(String.ofList name, String.ofList value)] := by
  have huncut : Text.splitAt '&' (writeParameter name value) = [writeParameter name value] :=
    Text.splitAt_of_not_mem (not_mem_writeParameter (by decide) (by decide) name value)
  have hsome : (writeParameter name value).isEmpty = false := by
    rw [writeParameter, List.isEmpty_eq_false_iff]
    exact List.append_ne_nil_of_right_ne_nil _ (List.cons_ne_nil _ _)
  rw [parameters?, huncut, List.filter_singleton, hsome]
  simp [parameter?_writeParameter]

end SnippetScope.Web
