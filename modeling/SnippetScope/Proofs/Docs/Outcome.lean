/-
  SnippetScope.Proofs.Docs.Outcome

  What becomes of a product: the model's text if there is a model and it
  answers the product's own prompt with something to see, and the product's own
  template otherwise (`Capability.produce_cases`).  Every template has something
  to see whatever it is filled from, so every product has
  (`Capability.allBlank_produce`).
-/
import SnippetScope.Docs.Documenter
import SnippetScope.Proofs.Text.Blank
import Mathlib.Logic.Function.Basic

namespace SnippetScope.Docs

open Text (allBlank)

theorem Product.mem_all (product : Product) : product ∈ Product.all := by
  cases product <;> decide

/-! ## Templates -/

/-- The bullets come behind the heading and take nothing from it. -/
theorem mem_bulleted {c : Char} (items : List String) {heading : String}
    (hc : c ∈ heading.toList) : c ∈ (bulleted heading items).toList := by
  induction items generalizing heading with
  | nil => exact hc
  | cons item items ih =>
      rw [bulleted, List.foldl_cons]
      apply ih
      rw [String.toList_append, String.toList_append, List.append_assoc]
      exact List.mem_append_left _ hc

/-- The title of the documentation starts with its mark. -/
theorem Subject.mark_mem_documentation (s : Subject) : '#' ∈ s.documentation.toList := by
  have htitle : "# " ++ s.languageName ++ " Code Documentation" ∈ s.documentationLines := by
    rw [documentationLines, opening, List.append_assoc]
    exact List.mem_append_left _ List.mem_cons_self
  rw [documentation, String.toList_join, List.flatMap_map]
  refine List.mem_flatMap.mpr ⟨_, htitle, ?_⟩
  rw [String.toList_append, String.toList_append, String.toList_append]
  exact List.mem_append_left _ (List.mem_append_left _ (List.mem_append_left _ (by decide)))

/-- No template is blank, whatever it is filled from. -/
theorem Product.allBlank_template (product : Product) (subject : Subject) :
    allBlank (product.template subject).toList = false := by
  cases product with
  | documentation =>
      exact Text.allBlank_eq_false_of_mem subject.mark_mem_documentation (by decide)
  | refactoring =>
      have hheading : 'R' ∈ "REFACTORING SUGGESTIONS:".toList := by decide
      exact Text.allBlank_eq_false_of_mem (mem_bulleted _ hheading) (by decide)
  | improvements =>
      have hheading : 'I' ∈ "IMPROVEMENT SUGGESTIONS:".toList := by decide
      exact Text.allBlank_eq_false_of_mem (mem_bulleted _ hheading) (by decide)

/-! ## Prompts -/

/-- What tells the prompt of a product from the others. -/
def Product.request : Product → List Char
  | documentation => "Generate co".toList
  | refactoring => "Analyze the".toList
  | improvements => "Analyze thi".toList

theorem Product.request_prefix_prompt (product : Product) (outline : Outline) :
    product.request <+: (product.prompt outline).toList := by
  -- The equations of the prompts are slow to make, so their definitions are opened as they stand.
  cases product with
  | documentation =>
      have hstart : request .documentation
          <+: "Generate comprehensive markdown documentation for this ".toList := by decide
      rw [prompt]
      delta documentationPrompt
      simp only [String.toList_append, List.append_assoc]
      exact hstart.trans (List.prefix_append _ _)
  | refactoring =>
      have hstart : request .refactoring <+: "Analyze the following ".toList := by decide
      rw [prompt]
      delta refactoringPrompt
      simp only [String.toList_append, List.append_assoc]
      exact hstart.trans (List.prefix_append _ _)
  | improvements =>
      have hstart : request .improvements <+: "Analyze this ".toList := by decide
      rw [prompt]
      delta improvementPrompt
      simp only [String.toList_append, List.append_assoc]
      exact hstart.trans (List.prefix_append _ _)

/-- Each product has a prompt of its own. -/
theorem Product.prompt_injective (outline : Outline) :
    Function.Injective (Product.prompt outline) := by
  intro a b h
  -- The prompts differ within their first letters already.
  have hlength : ∀ product : Product, product.request.length = 11 := by
    intro product
    cases product <;> rfl
  have hrequest : a.request = b.request := by
    have ha := List.prefix_iff_eq_take.mp (a.request_prefix_prompt outline)
    have hb := List.prefix_iff_eq_take.mp (b.request_prefix_prompt outline)
    rw [ha, hb, hlength, hlength, h]
  cases a <;> cases b <;> first | rfl | exact absurd hrequest (by decide)

/-- A model can answer each of the prompts as it likes. -/
theorem exists_model (outline : Outline) (replies : Product → Reply) :
    ∃ model : Model, ∀ product : Product,
      model.reply (product.prompt outline) = replies product := by
  refine ⟨⟨"", Function.extend (Product.prompt outline) replies fun _ => .noAnswer⟩, ?_⟩
  exact (Product.prompt_injective outline).extend_apply replies fun _ => .noAnswer

/-! ## Results -/

theorem Reply.usable?_eq_some_iff {reply : Reply} {text : String} :
    reply.usable? = some text ↔ reply = .text text ∧ allBlank text.toList = false := by
  cases reply with
  | text value =>
      by_cases hblank : allBlank value.toList = true
      · rw [usable?, if_pos hblank]
        constructor
        · rintro ⟨⟩
        · rintro ⟨heq, hvisible⟩
          cases heq
          rw [hblank] at hvisible
          cases hvisible
      · rw [usable?, if_neg hblank]
        constructor
        · rintro ⟨⟩
          exact ⟨rfl, by rwa [Bool.not_eq_true] at hblank⟩
        · rintro ⟨heq, -⟩
          cases heq
          rfl
  | failed error => exact ⟨by rintro ⟨⟩, by rintro ⟨⟨⟩, -⟩⟩
  | noAnswer => exact ⟨by rintro ⟨⟩, by rintro ⟨⟨⟩, -⟩⟩

/-- What a reply makes of a product. -/
def Product.settle (product : Product) (subject : Subject) (reply : Reply) : Generated :=
  match reply.usable? with
  | some text => ⟨text, .model⟩
  | none => ⟨product.template subject, .fallback⟩

theorem produce_available (model : Model) (subject : Subject) (product : Product) :
    (Capability.available model).produce subject product
      = product.settle subject (model.reply (product.prompt subject.outline)) := rfl

namespace Capability

/-- There is a model, and it answers the prompt of the product with this text,
    in which there is something to see. -/
def Answers (capability : Capability) (subject : Subject) (product : Product) (text : String) :
    Prop :=
  ∃ model, capability = available model
    ∧ model.reply (product.prompt subject.outline) = .text text ∧ allBlank text.toList = false

variable {capability : Capability} {subject : Subject} {product : Product}

/-- A product is a text of the model, or its template where there is no such text. -/
theorem produce_cases (capability : Capability) (subject : Subject) (product : Product) :
    (∃ text, capability.Answers subject product text
        ∧ capability.produce subject product = ⟨text, .model⟩)
      ∨ (∀ text, ¬ capability.Answers subject product text)
        ∧ capability.produce subject product = ⟨product.template subject, .fallback⟩ := by
  cases capability with
  | available model =>
      rw [produce_available, Product.settle]
      cases husable : (model.reply (product.prompt subject.outline)).usable? with
      | some text => exact .inl ⟨text, ⟨model, rfl, Reply.usable?_eq_some_iff.mp husable⟩, rfl⟩
      | none =>
          refine .inr ⟨?_, rfl⟩
          rintro text ⟨other, hmodel, hreply⟩
          cases hmodel
          rw [Reply.usable?_eq_some_iff.mpr hreply] at husable
          cases husable
  | unavailable reason => exact .inr ⟨by rintro text ⟨model, ⟨⟩, -⟩, rfl⟩

theorem produce_eq_model_iff {text : String} :
    capability.produce subject product = ⟨text, .model⟩
      ↔ capability.Answers subject product text := by
  rcases produce_cases capability subject product with ⟨own, hanswers, heq⟩ | ⟨hnone, heq⟩
  · rw [heq]
    constructor
    · rintro ⟨⟩
      exact hanswers
    · -- A model has one reply to a prompt.
      rintro ⟨model, hmodel, hreply, -⟩
      obtain ⟨other, hother, hown, -⟩ := hanswers
      rw [hmodel] at hother
      cases hother
      rw [hreply] at hown
      cases hown
      rfl
  · rw [heq]
    exact ⟨by rintro ⟨⟩, fun hanswers => absurd hanswers (hnone text)⟩

theorem produce_eq_fallback_iff :
    capability.produce subject product = ⟨product.template subject, .fallback⟩
      ↔ ∀ text, ¬ capability.Answers subject product text := by
  rcases produce_cases capability subject product with ⟨own, hanswers, heq⟩ | ⟨hnone, heq⟩
  · rw [heq]
    exact ⟨by rintro ⟨⟩, fun hnone => absurd hanswers (hnone own)⟩
  · exact ⟨fun _ => hnone, fun _ => heq⟩

/-- There is something to see in every product. -/
theorem allBlank_produce (capability : Capability) (subject : Subject) (product : Product) :
    allBlank (capability.produce subject product).text.toList = false := by
  rcases produce_cases capability subject product with ⟨own, hanswers, heq⟩ | ⟨-, heq⟩
  · obtain ⟨-, -, -, hvisible⟩ := hanswers
    rw [heq]
    exact hvisible
  · rw [heq]
    exact product.allBlank_template subject

theorem get_document (capability : Capability) (subject : Subject) (product : Product) :
    (capability.document subject).get product = capability.produce subject product := by
  cases product <;> rfl

end Capability

end SnippetScope.Docs
