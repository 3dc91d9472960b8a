/-
  SnippetScope.Proofs.Docs.Answers

  What the answer of a service means.  Rules say which documents are answers and
  what texts their candidates have (`IsAnswer`); the reader accepts these and no
  others (`answerTexts?_eq_some_iff`).  A document that has more beside what the
  rules look at means the same (`AnswerGains`, `answerTexts?_gains`).
-/
import SnippetScope.Docs.Service
import SnippetScope.Proofs.Json.Records
import SnippetScope.Proofs.Json.RoundTrip

namespace SnippetScope.Docs

open Text (allBlank)
open Json (SpellsPadded Symbol Written)
open Json.Written

/-! ## Candidates and their texts -/

/-- A part of a content and its text; a missing one is empty. -/
def IsPart : Written → String → Prop := OneField "text" "" IsText

/-- A content and the texts of its parts; missing ones are none. -/
def IsContent : Written → List String → Prop := OneField "parts" [] (IsArray IsPart)

/-- A candidate and the texts of its content, which may be missing or `null`. -/
def IsCandidate : Written → Option (List String) → Prop :=
  OneField "content" none (IsNullable IsContent)

/-- An answer and the texts of its candidates; missing ones are none. -/
def IsAnswer : Written → List (Option (List String)) → Prop :=
  OneField "candidates" [] (IsArray IsCandidate)

theorem partText?_eq_some_iff (part : Written) (text : String) :
    partText? part = some text ↔ IsPart part text :=
  oneField?_eq_some_iff fun _ _ => text?_eq_some_iff

theorem contentTexts?_eq_some_iff (content : Written) (texts : List String) :
    contentTexts? content = some texts ↔ IsContent content texts :=
  oneField?_eq_some_iff fun _ _ => list?_eq_some_iff partText?_eq_some_iff

theorem candidateTexts?_eq_some_iff (candidate : Written) (texts? : Option (List String)) :
    candidateTexts? candidate = some texts? ↔ IsCandidate candidate texts? :=
  oneField?_eq_some_iff fun _ _ => nullable_eq_some_iff contentTexts?_eq_some_iff

/-- The rules for answers are those of the reader. -/
theorem answerTexts?_eq_some_iff (answer : Written) (candidates : List (Option (List String))) :
    answerTexts? answer = some candidates ↔ IsAnswer answer candidates :=
  oneField?_eq_some_iff fun _ _ => list?_eq_some_iff candidateTexts?_eq_some_iff

/-- The body is one document, which is an answer with these candidates. -/
def Decodes (body : List Symbol) (candidates : List (Option (List String))) : Prop :=
  ∃ answer, SpellsPadded body answer ∧ IsAnswer answer candidates

theorem read?_bind_answerTexts?_eq_some_iff {body : List Symbol}
    {candidates : List (Option (List String))} :
    (Json.read? body).bind answerTexts? = some candidates ↔ Decodes body candidates := by
  simp only [Option.bind_eq_some_iff, Json.read?_eq_some_iff, answerTexts?_eq_some_iff, Decodes]

/-! ## Additions -/

/-- A part with additions. -/
def PartGains : Written → Written → Prop := FieldGains "text" (· = ·)

/-- A content with additions to it and to its parts. -/
def ContentGains : Written → Written → Prop := FieldGains "parts" (ItemsGain PartGains)

/-- A candidate with additions to it and to its content. -/
def CandidateGains : Written → Written → Prop := FieldGains "content" ContentGains

/-- Later candidates with additions, and with other candidates among them. -/
inductive LaterGain : List Written → List Written → Prop where
  | nil : LaterGain [] []
  | kept {candidate candidate' : Written} {later later' : List Written}
      (hcandidate : CandidateGains candidate candidate') (h : LaterGain later later') :
      LaterGain (candidate :: later) (candidate' :: later')
  | added {candidate : Written} {texts? : Option (List String)} {later later' : List Written}
      (hcandidate : IsCandidate candidate texts?) (h : LaterGain later later') :
      LaterGain later (candidate :: later')

/-- Candidates with additions; others come after the first. -/
inductive CandidatesGain : Written → Written → Prop where
  | array {first first' : Written} {later later' : List Written}
      (hfirst : CandidateGains first first') (h : LaterGain later later') :
      CandidatesGain (.array (first :: later)) (.array (first' :: later'))
  | same {candidates : Written} : CandidatesGain candidates candidates

/-- An answer with additions to it and to its candidates. -/
def AnswerGains : Written → Written → Prop := FieldGains "candidates" CandidatesGain

theorem partText?_gains {part part' : Written} (h : PartGains part part') :
    partText? part = partText? part' :=
  oneField?_eq_of_gains (fun _ => rfl) (fun _ _ hvalue => congrArg text? hvalue) h

theorem contentTexts?_gains {content content' : Written} (h : ContentGains content content') :
    contentTexts? content = contentTexts? content' := by
  refine oneField?_eq_of_gains (fun _ => .same) (fun parts parts' hparts => ?_) h
  exact list?_gains (fun _ _ hpart => partText?_gains hpart) hparts

theorem candidateTexts?_gains {candidate candidate' : Written}
    (h : CandidateGains candidate candidate') :
    candidateTexts? candidate = candidateTexts? candidate' := by
  refine oneField?_eq_of_gains (fun _ => .same) (fun content content' hcontent => ?_) h
  exact nullable_gains hcontent (contentTexts?_gains hcontent)

/-- The same first candidate, or none in either. -/
def SameFirst (candidates candidates' : List (Option (List String))) : Prop :=
  candidates.head? = candidates'.head?

theorem sameFirst_refl (candidates : List (Option (List String))) :
    SameFirst candidates candidates := rfl

/-- Later candidates can all be read with additions if they can without them. -/
theorem mapM_later_gains {later later' : List Written} (h : LaterGain later later') :
    Option.Rel (fun _ _ => True) (later.mapM candidateTexts?) (later'.mapM candidateTexts?) := by
  induction h with
  | nil => exact .some trivial
  | @kept candidate candidate' later later' hcandidate h ih =>
      rw [List.mapM_cons, List.mapM_cons, candidateTexts?_gains hcandidate]
      generalize later.mapM candidateTexts? = old, later'.mapM candidateTexts? = new at ih
      -- A candidate that cannot be read makes either list one that cannot.
      cases candidateTexts? candidate' with
      | none => exact .none
      | some texts? =>
          cases ih with
          | none => exact .none
          | some => exact .some trivial
  | @added candidate texts? later later' hcandidate h ih =>
      rw [List.mapM_cons, (candidateTexts?_eq_some_iff candidate texts?).mpr hcandidate]
      generalize later.mapM candidateTexts? = old, later'.mapM candidateTexts? = new at ih
      cases ih with
      | none => exact .none
      | some => exact .some trivial

theorem list?_candidates_gains {candidates candidates' : Written}
    (h : CandidatesGain candidates candidates') :
    Option.Rel SameFirst (list? candidateTexts? candidates) (list? candidateTexts? candidates') := by
  cases h with
  | same => exact rel_refl sameFirst_refl _
  | @array first first' later later' hfirst h =>
      have hlater := mapM_later_gains h
      rw [list?, list?, List.mapM_cons, List.mapM_cons, candidateTexts?_gains hfirst]
      generalize later.mapM candidateTexts? = old, later'.mapM candidateTexts? = new at hlater
      cases candidateTexts? first' with
      | none => exact .none
      | some texts? =>
          cases hlater with
          | none => exact .none
          | some => exact .some rfl

/-- Additions to an answer leave its first candidate as it is. -/
theorem answerTexts?_gains {answer answer' : Written} (h : AnswerGains answer answer') :
    Option.Rel SameFirst (answerTexts? answer) (answerTexts? answer') :=
  oneField?_gains (fun _ => .same) (sameFirst_refl [])
    (fun _ _ hcandidates => list?_candidates_gains hcandidates) h

/-! ## Replies -/

theorem firstText?_eq_of_sameFirst {candidates candidates' : List (Option (List String))}
    (h : SameFirst candidates candidates') : firstText? candidates = firstText? candidates' := by
  cases candidates with
  | nil =>
      cases candidates' with
      | nil => rfl
      | cons first later => cases h
  | cons first later =>
      cases candidates' with
      | nil => cases h
      | cons first' later' =>
          cases Option.some.inj h
          cases first <;> rfl

/-- The text of the first candidate is its texts one after the other, if there
    is something to see in them. -/
theorem firstText?_eq_some_iff {candidates : List (Option (List String))} {text : String} :
    firstText? candidates = some text
      ↔ ∃ texts later, candidates = some texts :: later ∧ text = String.join texts
        ∧ allBlank text.toList = false := by
  match candidates with
  | [] => simp [firstText?]
  | none :: later => simp [firstText?]
  | some texts :: later =>
      rw [firstText?]
      cases hblank : allBlank (String.join texts).toList with
      | true =>
          constructor
          · rintro ⟨⟩
          · rintro ⟨_, _, ⟨⟩, rfl, hvisible⟩
            rw [hblank] at hvisible
            cases hvisible
      | false =>
          constructor
          · rintro ⟨⟩
            exact ⟨texts, later, rfl, rfl, hblank⟩
          · rintro ⟨_, _, ⟨⟩, rfl, -⟩
            rfl

theorem firstText?_eq_none_iff {candidates : List (Option (List String))} :
    firstText? candidates = none
      ↔ candidates = [] ∨ (∃ later, candidates = none :: later)
        ∨ ∃ texts later, candidates = some texts :: later
          ∧ allBlank (String.join texts).toList = true := by
  match candidates with
  | [] => simp [firstText?]
  | none :: later => simp [firstText?]
  | some texts :: later => simp [firstText?]

variable {body : List Symbol} {candidates : List (Option (List String))}

theorem reply_of_status_ne {status : Nat} (h : status ≠ 200) (body : List Symbol) :
    (Answer.complete status body).reply = .failed (.status status) := by
  rw [Answer.reply, if_pos h]

theorem reply_of_not_decodes (h : ∀ candidates, ¬ Decodes body candidates) :
    (Answer.complete 200 body).reply = .failed .network := by
  have hread : (Json.read? body).bind answerTexts? = none := by
    rw [Option.eq_none_iff_forall_ne_some]
    intro candidates hread
    exact h candidates (read?_bind_answerTexts?_eq_some_iff.mp hread)
  simp only [Answer.reply, ne_eq, not_true_eq_false, if_false, hread]

theorem reply_of_decodes (h : Decodes body candidates) :
    (Answer.complete 200 body).reply
      = (firstText? candidates).elim (.failed .emptyReply) .text := by
  have hread := read?_bind_answerTexts?_eq_some_iff.mpr h
  simp only [Answer.reply, ne_eq, not_true_eq_false, if_false, hread]
  cases firstText? candidates <;> rfl

theorem reply_eq_network_iff :
    (Answer.complete 200 body).reply = .failed .network
      ↔ ∀ candidates, ¬ Decodes body candidates := by
  refine ⟨fun h candidates hdecodes => ?_, reply_of_not_decodes⟩
  rw [reply_of_decodes hdecodes] at h
  cases htext : firstText? candidates <;> simp [htext] at h

theorem reply_eq_emptyReply_iff (h : Decodes body candidates) :
    (Answer.complete 200 body).reply = .failed .emptyReply ↔ firstText? candidates = none := by
  rw [reply_of_decodes h]
  cases firstText? candidates <;> simp

theorem reply_eq_text_iff (h : Decodes body candidates) {text : String} :
    (Answer.complete 200 body).reply = .text text ↔ firstText? candidates = some text := by
  rw [reply_of_decodes h]
  cases firstText? candidates <;> simp

/-- Additions to an answer do not change the reply, be it a text or an error. -/
theorem reply_gains {status : Nat} {body' : List Symbol} {answer answer' : Written}
    (h : SpellsPadded body answer) (h' : SpellsPadded body' answer')
    (hgains : AnswerGains answer answer') :
    (Answer.complete status body).reply = (Answer.complete status body').reply := by
  by_cases hstatus : status = 200
  · subst hstatus
    rw [Answer.reply, Answer.reply, Json.read?_eq_some_iff.mpr h, Json.read?_eq_some_iff.mpr h',
      Option.bind_some, Option.bind_some]
    -- Both are refused, or both are read and have the same first candidate.
    have hcandidates := answerTexts?_gains hgains
    generalize answerTexts? answer = old, answerTexts? answer' = new at hcandidates
    cases hcandidates with
    | none => rfl
    | some hfirst => simp only [firstText?_eq_of_sameFirst hfirst]
  · rw [reply_of_status_ne hstatus, reply_of_status_ne hstatus]

theorem ask_eq_reply {service : Service} {send : Request → Answer} {prompt : String}
    {request : Request} {answer : Answer} (hrequest : service.request? prompt = some request)
    (hanswer : send request = answer) : service.ask send prompt = answer.reply := by
  rw [Service.ask, hrequest]
  show (send request).reply = answer.reply
  rw [hanswer]

/-- What a service makes of every answer.  A status other than 200 is passed on,
    whatever the body; else a body that is not one document of the expected form
    counts as a failed connection; else the reply is empty unless the first
    candidate has texts with something to see in them; and else it is these texts
    one after the other.  Members that nobody asks for, in whatever object, and
    candidates after the first change nothing. -/
theorem reply_complete (status : Nat) (body : List Symbol) :
    (∀ (service : Service) (send : Request → Answer) (prompt : String) (request : Request),
        service.request? prompt = some request → send request = .complete status body →
          service.ask send prompt = (Answer.complete status body).reply)
      ∧ (status ≠ 200 → (Answer.complete status body).reply = .failed (.status status))
      ∧ ((Answer.complete 200 body).reply = .failed .network
          ↔ ∀ candidates, ¬ Decodes body candidates)
      ∧ (∀ candidates, Decodes body candidates →
          ((Answer.complete 200 body).reply = .failed .emptyReply
            ↔ candidates = [] ∨ (∃ later, candidates = none :: later)
              ∨ ∃ texts later, candidates = some texts :: later
                ∧ allBlank (String.join texts).toList = true)
          ∧ ∀ text, (Answer.complete 200 body).reply = .text text
            ↔ ∃ texts later, candidates = some texts :: later ∧ text = String.join texts
              ∧ allBlank text.toList = false)
      ∧ ∀ body' answer answer', SpellsPadded body answer → SpellsPadded body' answer' →
          AnswerGains answer answer' →
            (Answer.complete status body).reply = (Answer.complete status body').reply := by
  refine ⟨fun service send prompt request => ask_eq_reply,
    fun hstatus => reply_of_status_ne hstatus body, reply_eq_network_iff,
    fun candidates hdecodes => ⟨?_, fun text => ?_⟩, fun body' answer answer' => reply_gains⟩
  · exact (reply_eq_emptyReply_iff hdecodes).trans firstText?_eq_none_iff
  · exact (reply_eq_text_iff hdecodes).trans firstText?_eq_some_iff

/-- A document as the body of an answer. -/
def bodyOf (document : Json) : List Symbol :=
  document.flat.toList.map some

theorem spellsPadded_bodyOf (document : Json) :
    SpellsPadded (bodyOf document) (Json.asWritten document) :=
  Json.read?_eq_some_iff.mp (Json.readText?_flat document)

theorem decodes_bodyOf {document : Json}
    (h : answerTexts? (Json.asWritten document) = some candidates) :
    Decodes (bodyOf document) candidates :=
  ⟨_, spellsPadded_bodyOf document, (answerTexts?_eq_some_iff _ _).mp h⟩

theorem isOther_between {name : String} {key : List Char} (h : key ≠ name.toList) :
    IsOther name (Json.between key) :=
  ⟨key, Json.textOf?_between key, h⟩

/-- An answer with a text in two parts. -/
def greeting : Json :=
  .object [("candidates", .array [.object [("content", .object [("parts", .array
    [.object [("text", .string "Hello, ")], .object [("text", .string "world")]])])]])]

/-- The same with other members in all of its objects, and with a second
    candidate. -/
def fullGreeting : Json :=
  .object [("usage", .number 2), ("candidates", .array [
    .object [("content", .object [("role", .string "model"), ("parts", .array
      [.object [("text", .string "Hello, "), ("thought", .bool false)],
        .object [("thought", .null), ("text", .string "world")]])]), ("index", .number 0)],
    .object [("content", .null)]])]

theorem answerGains_greeting :
    AnswerGains (Json.asWritten greeting) (Json.asWritten fullGreeting) := by
  have hsecond : IsCandidate (Json.asWritten (.object [("content", .null)])) none :=
    .given (.object (.given (Json.textOf?_between _) .nil)) .null
  -- Level by level, what is added stands beside the field that is looked at.
  refine .object (.added (isOther_between (by decide)) (.kept (fun _ => ?_) .nil))
  refine .array ?_ (.added hsecond .nil)
  refine .object (.kept (fun _ => ?_) (.added (isOther_between (by decide)) .nil))
  refine .object (.added (isOther_between (by decide)) (.kept (fun _ => ?_) .nil))
  refine .array (.cons ?hello (.cons ?world .nil))
  case hello => exact .object (.kept (fun _ => rfl) (.added (isOther_between (by decide)) .nil))
  case world => exact .object (.added (isOther_between (by decide)) (.kept (fun _ => rfl) .nil))

/-- A service with an address. -/
def greeter : Service where
  model := "greeter"
  basePath := "/v1".toList
  key := "key"

theorem reply_complete_greeting :
    Decodes (bodyOf greeting) [some ["Hello, ", "world"]]
      ∧ (Answer.complete 200 (bodyOf greeting)).reply = .text "Hello, world"
      ∧ (∃ request, greeter.request? "Greet!" = some request)
      ∧ greeter.ask (fun _ => .complete 200 (bodyOf greeting)) "Greet!" = .text "Hello, world"
      ∧ AnswerGains (Json.asWritten greeting) (Json.asWritten fullGreeting)
      ∧ (Answer.complete 200 (bodyOf fullGreeting)).reply = .text "Hello, world"
      ∧ (Answer.complete 503 (bodyOf greeting)).reply = .failed (.status 503)
      ∧ Decodes (bodyOf (.object [])) []
      ∧ (Answer.complete 200 (bodyOf (.object []))).reply = .failed .emptyReply
      ∧ (∀ candidates, ¬ Decodes [] candidates)
      ∧ (Answer.complete 200 []).reply = .failed .network := by
  have hdecodes : Decodes (bodyOf greeting) [some ["Hello, ", "world"]] :=
    decodes_bodyOf (by decide +kernel)
  have hnone : Decodes (bodyOf (.object [])) [] := decodes_bodyOf (by decide +kernel)
  have hempty : ∀ candidates, ¬ Decodes [] candidates := by
    intro candidates h
    cases read?_bind_answerTexts?_eq_some_iff.mpr h
  have hrequest : (greeter.request? "Greet!").isSome := by decide +kernel
  obtain ⟨request, hrequest⟩ := Option.isSome_iff_exists.mp hrequest
  obtain ⟨hask, -, -, hreply, hgains⟩ := reply_complete 200 (bodyOf greeting)
  have htext : (Answer.complete 200 (bodyOf greeting)).reply = .text "Hello, world" :=
    ((hreply _ hdecodes).2 _).mpr ⟨_, _, rfl, by decide, by decide⟩
  have hfull := hgains _ _ _ (spellsPadded_bodyOf greeting) (spellsPadded_bodyOf fullGreeting)
    answerGains_greeting
  obtain ⟨-, hstatus, -⟩ := reply_complete 503 (bodyOf greeting)
  obtain ⟨-, -, -, hreplyNone, -⟩ := reply_complete 200 (bodyOf (.object []))
  obtain ⟨-, -, hnetwork, -⟩ := reply_complete 200 []
  exact ⟨hdecodes, htext, ⟨request, hrequest⟩, (hask greeter _ _ _ hrequest rfl).trans htext,
    answerGains_greeting, hfull.symm.trans htext, hstatus (by decide), hnone,
    (hreplyNone _ hnone).1.mpr (.inl rfl), hempty, hnetwork.mpr hempty⟩

end SnippetScope.Docs
