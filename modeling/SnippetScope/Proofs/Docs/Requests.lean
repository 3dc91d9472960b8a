/-
  SnippetScope.Proofs.Docs.Requests

  What a request to a service carries.  Its path is made of plain names, whatever
  slashes end the base path (`servicePath_eq`, `plain_serviceSegments`); behind it
  a receiver finds the key as the one parameter, and in the body the prompt as
  the one text (`request_carries`).
-/
import SnippetScope.Proofs.Docs.Answers
import SnippetScope.Proofs.Json.Values
import SnippetScope.Proofs.Text.Blank
import SnippetScope.Proofs.Web.Target

namespace SnippetScope.Docs

open Web (path pathOf queryOf writeParameter PlainSegment isGraphic isPathChar
  isSeparator isDot isDoubleDot dropDot?)

/-! ## Names in an address -/

/-- The characters of names. -/
def isNameChar (c : Char) : Bool :=
  c.isAlphanum || c == '-' || c == '_' || c == '.'

/-- The text is made of the characters of names. -/
def OfNameChars (text : List Char) : Prop :=
  ∀ c ∈ text, isNameChar c = true

-- Given by name, so that only the characters of the text are looked at.
instance (text : List Char) : Decidable (OfNameChars text) :=
  List.decidableBAll (fun c => isNameChar c = true) text

/-- The segments of a base path up to the slashes at its end: names that lead
    on, with no empty one in the last place. -/
structure BaseSegments (segments : List (List Char)) : Prop where
  chars : ∀ segment ∈ segments, OfNameChars segment
  leadsOn : ∀ segment ∈ segments, segment ≠ ['.'] ∧ segment ≠ ['.', '.']
  last : segments.getLast? ≠ some []

section

variable {c : Char}

theorem toNat_of_isNameChar (h : isNameChar c = true) : 32 < c.toNat ∧ c.toNat < 127 := by
  have hupper : c.isUpper = true → 65 ≤ c.toNat ∧ c.toNat ≤ 90 := of_decide_eq_true
  have hlower : c.isLower = true → 97 ≤ c.toNat ∧ c.toNat ≤ 122 := by
    intro hletter
    obtain ⟨hfrom, hto⟩ := Bool.and_eq_true_iff.mp hletter
    exact ⟨of_decide_eq_true hfrom, of_decide_eq_true hto⟩
  have hdigit : c.isDigit = true → 48 ≤ c.toNat ∧ c.toNat ≤ 57 := Char.isDigit_iff_toNat.mp
  simp only [isNameChar, Char.isAlphanum, Bool.or_eq_true, beq_iff_eq] at h
  rcases h with (((hletter | hnumber) | rfl) | rfl) | rfl
  · have hcase : (c.isUpper || c.isLower) = true := hletter
    rcases Bool.or_eq_true_iff.mp hcase with hletter | hletter
    · have hcode := hupper hletter
      omega
    · have hcode := hlower hletter
      omega
  · have hcode := hdigit hnumber
    omega
  · decide
  · decide
  · decide

theorem isPathChar_of_isNameChar (h : isNameChar c = true) : isPathChar c = true := by
  have hcode := toNat_of_isNameChar h
  have hgraphic : isGraphic c = true := by
    simp only [isGraphic, Bool.and_eq_true, decide_eq_true_eq]
    exact hcode
  -- None of the marks that a path has to escape is part of a name.
  have hunmarked : c ∉ "\"<>\x60#?\x7b\x7d".toList := by
    have hmarks : "\"<>\x60#?\x7b\x7d".toList.all (!isNameChar ·) = true := by decide
    intro hmem
    have hmark := List.all_eq_true.mp hmarks c hmem
    rw [h] at hmark
    cases hmark
  rw [isPathChar, hgraphic, Bool.true_and, Bool.not_eq_true', ← Bool.not_eq_true,
    List.contains_iff_mem]
  exact hunmarked

theorem isSeparator_of_isNameChar (h : isNameChar c = true) : isSeparator c = false := by
  rw [← Bool.not_eq_true, isSeparator, Bool.or_eq_true, beq_iff_eq, beq_iff_eq]
  rintro (rfl | rfl) <;> revert h <;> decide

theorem isBlank_of_isNameChar (h : isNameChar c = true) : Unicode.isBlank c = false := by
  have hcode := toNat_of_isNameChar h
  rw [Unicode.isBlank, if_pos (by omega), ← Bool.not_eq_true, Bool.or_eq_true, Bool.and_eq_true]
  simp only [decide_eq_true_eq, beq_iff_eq]
  omega

theorem OfNameChars.pathChars {name : List Char} (h : OfNameChars name) :
    ∀ c ∈ name, isPathChar c = true ∧ isSeparator c = false :=
  fun c hc => ⟨isPathChar_of_isNameChar (h c hc), isSeparator_of_isNameChar (h c hc)⟩

/-- A name is blank only if it is empty. -/
theorem allBlank_eq_false_of_names {name : List Char} (h : OfNameChars name)
    (hne : name ≠ []) : Text.allBlank name = false := by
  obtain ⟨c, hc⟩ := List.exists_mem_of_ne_nil name hne
  exact Text.allBlank_eq_false_of_mem hc (isBlank_of_isNameChar (h c hc))

end

/-! ## Segments -/

section

variable {segment rest : List Char}

/-- The dot of a name is not escaped. -/
theorem eq_cons_of_dropDot? (h : OfNameChars segment)
    (hdrop : dropDot? segment = some rest) : segment = '.' :: rest := by
  unfold dropDot? at hdrop
  split at hdrop
  · cases hdrop
    rfl
  · exact absurd (h '%' List.mem_cons_self) (by decide)
  · cases hdrop

theorem length_le_of_dropDot? (hdrop : dropDot? segment = some rest) :
    segment.length ≤ rest.length + 3 := by
  unfold dropDot? at hdrop
  split at hdrop
  · cases hdrop
    simp
  · split at hdrop
    · cases hdrop
      simp
    · cases hdrop
  · cases hdrop

/-- A name that is no dot and no double dot is sent as it is written. -/
theorem plain_of_names (h : OfNameChars segment)
    (hleadsOn : segment ≠ ['.'] ∧ segment ≠ ['.', '.']) : PlainSegment segment where
  chars := h.pathChars
  not_dot := by
    rw [isDot, decide_eq_false_iff_not]
    intro hdrop
    exact hleadsOn.1 (eq_cons_of_dropDot? h hdrop)
  not_doubleDot := by
    rw [isDoubleDot, decide_eq_false_iff_not, Option.bind_eq_some_iff]
    rintro ⟨second, hfirst, hsecond⟩
    have hsegment := eq_cons_of_dropDot? h hfirst
    have hnames : OfNameChars second := by
      intro c hc
      apply h
      rw [hsegment]
      exact List.mem_cons_of_mem _ hc
    rw [eq_cons_of_dropDot? hnames hsecond] at hsegment
    exact hleadsOn.2 hsegment

/-- A segment that is too long for two dots, escaped or not, is none. -/
theorem plain_of_length (hchars : ∀ c ∈ segment, isPathChar c = true ∧ isSeparator c = false)
    (hlength : 6 < segment.length) : PlainSegment segment where
  chars := hchars
  not_dot := by
    rw [isDot, decide_eq_false_iff_not]
    intro hdrop
    have hle := length_le_of_dropDot? hdrop
    rw [List.length_nil] at hle
    omega
  not_doubleDot := by
    rw [isDoubleDot, decide_eq_false_iff_not, Option.bind_eq_some_iff]
    rintro ⟨second, hfirst, hsecond⟩
    have hle := length_le_of_dropDot? hfirst
    have hle' := length_le_of_dropDot? hsecond
    rw [List.length_nil] at hle'
    omega

end

/-! ## Paths -/

/-- The segments of the address of a model. -/
def serviceSegments (segments : List (List Char)) (model : List Char) : List (List Char) :=
  segments ++ ["models".toList, model ++ ":generateContent".toList]

theorem plain_serviceSegments {segments : List (List Char)} {model : List Char}
    (hsegments : BaseSegments segments) (hmodel : OfNameChars model) :
    ∀ segment ∈ serviceSegments segments model, PlainSegment segment := by
  intro segment hmem
  simp only [serviceSegments, List.mem_append, List.mem_cons, List.not_mem_nil, or_false] at hmem
  rcases hmem with hmem | rfl | rfl
  · exact plain_of_names (hsegments.chars segment hmem) (hsegments.leadsOn segment hmem)
  · exact plain_of_names (by decide) (by decide)
  · have hlength : 6 < (model ++ ":generateContent".toList).length := by
      rw [List.length_append]
      exact Nat.lt_add_left _ (by decide)
    -- Of all characters only the colon is no character of names.
    have hverb : OfNameChars "generateContent".toList := by decide
    have hbehind : ∀ c ∈ ':' :: "generateContent".toList,
        isPathChar c = true ∧ isSeparator c = false :=
      List.forall_mem_cons.mpr ⟨by decide, hverb.pathChars⟩
    apply plain_of_length _ hlength
    intro c hc
    rcases List.mem_append.mp hc with hc | hc
    · exact hmodel.pathChars c hc
    · exact hbehind c hc

/-- A base path ends in a character of its last name, if it is not empty. -/
theorem dropWhile_reverse_path {segments : List (List Char)} (h : BaseSegments segments) :
    (path segments).reverse.dropWhile (· = '/') = (path segments).reverse := by
  rcases List.eq_nil_or_concat segments with rfl | ⟨before, last, rfl⟩
  · rfl
  · have hlast : last ≠ [] := by
      have hsome := h.last
      rw [List.concat_eq_append, List.getLast?_concat] at hsome
      exact fun heq => hsome (congrArg some heq)
    obtain ⟨name, c, rfl⟩ := (List.eq_nil_or_concat last).resolve_left hlast
    have hc : isNameChar c = true := by
      apply h.chars (name.concat c)
      · simp
      · simp
    have hslash : c ≠ '/' := by
      rintro rfl
      revert hc
      decide
    have hend : (path (before.concat (name.concat c))).reverse
        = c :: (path before ++ '/' :: name).reverse := by
      simp [path]
    rw [hend, List.dropWhile_cons_of_neg (by simpa using hslash)]

/-- The slashes at the end of the base path do not matter. -/
theorem servicePath_eq {segments : List (List Char)} (h : BaseSegments segments) (slashes : Nat)
    (model key : String) :
    (Service.mk model (path segments ++ List.replicate slashes '/') key).path
      = path (serviceSegments segments model.toList) := by
  have htrimmed :
      ((path segments ++ List.replicate slashes '/').reverse.dropWhile (· = '/')).reverse
        = path segments := by
    have hslashes : ∀ c ∈ List.replicate slashes '/', decide (c = '/') = true := by
      intro c hc
      rw [decide_eq_true_iff]
      exact List.eq_of_mem_replicate hc
    rw [List.reverse_append, List.reverse_replicate, List.dropWhile_append_of_pos hslashes,
      dropWhile_reverse_path h, List.reverse_reverse]
  rw [Service.path, htrimmed]
  simp [path, serviceSegments]

/-! ## Requests -/

theorem ofSettings_eq_ok {settings : ModelSettings} {key : String}
    (hkey : Text.allBlank key.toList = false) (hmodel : Text.allBlank settings.model.toList = false)
    (basePath : List Char) :
    Service.ofSettings settings basePath key = .ok { model := settings.model, basePath, key } := by
  rw [Service.ofSettings, hkey, hmodel]
  rfl

theorem request?_eq {segments : List (List Char)} (hsegments : BaseSegments segments)
    (slashes : Nat) {model : String} (hmodel : OfNameChars model.toList)
    (key prompt : String) :
    (Service.mk model (path segments ++ List.replicate slashes '/') key).request? prompt
      = some { target := path (serviceSegments segments model.toList)
                 ++ '?' :: writeParameter "key".toList key.toList
               body := promptBody prompt } := by
  have hplain := plain_serviceSegments hsegments hmodel
  have hne : serviceSegments segments model.toList ≠ [] := by simp [serviceSegments]
  rw [Service.request?, servicePath_eq hsegments, Web.target?_path hne hplain]
  rfl

/-- What a request carries, for every prompt and every key that is not blank,
    if the model and the base path are made of names.  The body is a document
    with the prompt as its only text.  The path of the target is the base path
    without the slashes at its end, then the model; behind the first question
    mark stands the parameter `key` with the key as its value, and no other.
    Without the name of a model there is no service to send anything to. -/
theorem request_carries {settings : ModelSettings} {segments : List (List Char)}
    (hsegments : BaseSegments segments)
    (hmodel : OfNameChars settings.model.toList) (slashes : Nat) {key : String}
    (hkey : Text.allBlank key.toList = false) (prompt : String) :
    let made := Service.ofSettings settings (path segments ++ List.replicate slashes '/') key
    (settings.model = "" → made = .error (.notConfigured "no model name"))
      ∧ (settings.model ≠ "" → ∃ service request, made = .ok service
          ∧ service.request? prompt = some request
          ∧ (∀ send, service.ask send prompt = (send request).reply)
          ∧ Json.readValue? request.body.flat = some (.object [("contents", .array [
              .object [("parts", .array [.object [("text", .string prompt)]])]])])
          ∧ pathOf request.target = path segments ++ "/models/".toList ++ settings.model.toList
              ++ ":generateContent".toList
          ∧ request.target = pathOf request.target ++ '?' :: queryOf request.target
          ∧ Web.parameters? (queryOf request.target) = some [("key", key)]
          ∧ '#' ∉ request.target) := by
  intro made
  constructor
  · intro hempty
    show Service.ofSettings settings _ key = _
    rw [Service.ofSettings, hkey, hempty]
    rfl
  · intro hne
    have hvisible : Text.allBlank settings.model.toList = false := by
      apply allBlank_eq_false_of_names hmodel
      rw [ne_eq, String.toList_eq_nil_iff]
      exact hne
    have hplain := plain_serviceSegments hsegments hmodel
    have hpath : path (serviceSegments segments settings.model.toList)
        = path segments ++ "/models/".toList ++ settings.model.toList
          ++ ":generateContent".toList := by
      simp [path, serviceSegments]
    have hrequest := request?_eq hsegments slashes hmodel key prompt
    refine ⟨_, _, ofSettings_eq_ok hkey hvisible _, hrequest,
      fun send => ask_eq_reply hrequest rfl, Json.readValue?_flat _, ?_, ?_, ?_, ?_⟩
    · rw [Web.pathOf_target hplain, hpath]
    · rw [Web.pathOf_target hplain, Web.queryOf_target hplain]
    · rw [Web.queryOf_target hplain, Web.parameters?_writeParameter, String.ofList_toList,
        String.ofList_toList]
    · rw [List.mem_append, List.mem_cons]
      rintro (hmem | hmem | hmem)
      · exact Web.not_mem_path hplain (by decide) hmem
      · revert hmem
        decide
      · exact Web.not_mem_writeParameter (by decide) (by decide) _ _ hmem

/-- A key full of marks is one value, and a prompt full of marks one text. -/
theorem request_carries_marks :
    BaseSegments ["v1".toList, "beta".toList]
      ∧ ∃ service request,
          Service.ofSettings {} "/v1/beta//".toList "a&key=b #%41+ü" = .ok service
          ∧ service.request? "\"]\x7d,\n\\" = some request
          ∧ Json.readValue? request.body.flat = some (.object [("contents", .array [
              .object [("parts", .array [.object [("text", .string "\"]\x7d,\n\\")]])]])])
          ∧ pathOf request.target
              = "/v1/beta/models/gemini-2.0-flash-exp:generateContent".toList
          ∧ Web.parameters? (queryOf request.target) = some [("key", "a&key=b #%41+ü")] := by
  have hsegments : BaseSegments ["v1".toList, "beta".toList] := ⟨by decide, by decide, by decide⟩
  have hcarries := (@request_carries {} _ hsegments (by decide) 2 "a&key=b #%41+ü" (by decide)
    "\"]\x7d,\n\\").2 (by decide)
  obtain ⟨service, request, hservice, hrequest, -, hbody, hpath, -, hquery, -⟩ := hcarries
  exact ⟨hsegments, service, request, hservice, hrequest, hbody, hpath, hquery⟩

end SnippetScope.Docs
