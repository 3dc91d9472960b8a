/-
  SnippetScope.Proofs.Docs.Session

  The three products are asked for at the same time, and the replies come back
  in any order.  A session follows the calls event by event.  The events of one
  product tell a story of their own, whatever happens to the others in between
  (`Story`, `story_of_run`); so every session ends, and ends in the documents
  that the products give one by one (`document_outcome`).
-/
import SnippetScope.Proofs.Docs.Outcome
import Mathlib.Data.List.Nodup

namespace SnippetScope.Docs

open Text (allBlank)

/-! ## Steps -/

/-- How far the call for a product has come. -/
inductive Call where
  | ready
  | asked
  | settled (result : Generated)

/-- The calls for all products. -/
abbrev Session := Product → Call

/-- Something that happens in a session. -/
inductive Event where
  /-- There is no model, so the template stands in. -/
  | filled (product : Product)
  /-- The prompt is sent to the model. -/
  | asked (product : Product) (prompt : String)
  /-- The model replies, or the time for its reply is over. -/
  | answered (product : Product) (reply : Reply)
  deriving DecidableEq

/-- The product of an event. -/
def Event.product : Event → Product
  | filled product => product
  | asked product _ => product
  | answered product _ => product

namespace Session

/-- No call has been made yet. -/
def start : Session := fun _ => .ready

/-- Every call has its result. -/
def finished (documents : Documents) : Session := fun product => .settled (documents.get product)

/-- One of the calls goes on; the others stay where they are. -/
inductive Step (capability : Capability) (subject : Subject) (session : Session) :
    Event → Session → Prop where
  | fill (product : Product) {reason : String} (hcapability : capability = .unavailable reason)
      (hready : session product = .ready) :
      Step capability subject session (.filled product)
        (Function.update session product (.settled ⟨product.template subject, .fallback⟩))
  | ask (product : Product) {model : Model} (hcapability : capability = .available model)
      (hready : session product = .ready) :
      Step capability subject session (.asked product (product.prompt subject.outline))
        (Function.update session product .asked)
  | answer (product : Product) {model : Model} (hcapability : capability = .available model)
      (hasked : session product = .asked) {reply : Reply}
      (hreply : model.reply (product.prompt subject.outline) = reply) :
      Step capability subject session (.answered product reply)
        (Function.update session product (.settled (product.settle subject reply)))

/-- What may have happened up to a session, in order. -/
inductive Run (capability : Capability) (subject : Subject) : List Event → Session → Prop where
  | start : Run capability subject [] start
  | step {events : List Event} {session next : Session} {event : Event}
      (hrun : Run capability subject events session)
      (hstep : Step capability subject session event next) :
      Run capability subject (events ++ [event]) next

variable {capability : Capability} {subject : Subject} {product : Product}

/-! ## The story of one product -/

/-- The events of one product so far, and where they have led its call. -/
inductive Story (capability : Capability) (subject : Subject) (product : Product) :
    List Event → Call → Prop where
  | ready : Story capability subject product [] .ready
  | filled {reason : String} (hcapability : capability = .unavailable reason) :
      Story capability subject product [.filled product]
        (.settled (capability.produce subject product))
  | asked {model : Model} (hcapability : capability = .available model) :
      Story capability subject product [.asked product (product.prompt subject.outline)] .asked
  | answered {model : Model} (hcapability : capability = .available model) (reply : Reply) :
      Story capability subject product
        [.asked product (product.prompt subject.outline), .answered product reply]
        (.settled (capability.produce subject product))

/-- The events of a product. -/
def eventsOf (product : Product) (events : List Event) : List Event :=
  events.filter fun event => event.product = product

theorem eventsOf_append_self {event : Event} (h : event.product = product) (events : List Event) :
    eventsOf product (events ++ [event]) = eventsOf product events ++ [event] := by
  rw [eventsOf, List.filter_append, List.filter_singleton, decide_eq_true h]
  rfl

theorem eventsOf_append_other {event : Event} (h : event.product ≠ product)
    (events : List Event) : eventsOf product (events ++ [event]) = eventsOf product events := by
  rw [eventsOf, List.filter_append, List.filter_singleton, decide_eq_false h]
  exact List.append_nil _

/-- An event leads the story of its own product on. -/
theorem Story.step {session next : Session} {event : Event} {own : List Event}
    (hstep : Step capability subject session event next)
    (hstory : Story capability subject event.product own (session event.product)) :
    Story capability subject event.product (own ++ [event]) (next event.product) := by
  -- What the event asks of the call leaves one story that can have led there.
  cases hstep with
  | fill product hcapability hready =>
      rw [Event.product, hready] at hstory
      rw [Event.product, Function.update_self]
      cases hstory
      subst hcapability
      exact .filled rfl
  | ask product hcapability hready =>
      rw [Event.product, hready] at hstory
      rw [Event.product, Function.update_self]
      cases hstory
      exact .asked hcapability
  | answer product hcapability hasked hreply =>
      rw [Event.product, hasked] at hstory
      rw [Event.product, Function.update_self]
      cases hstory
      subst hcapability hreply
      exact .answered rfl _

/-- The call for another product stays where it is. -/
theorem Step.apply_of_ne {session next : Session} {event : Event}
    (hstep : Step capability subject session event next) (h : event.product ≠ product) :
    next product = session product := by
  cases hstep with
  | fill | ask | answer => exact Function.update_of_ne h.symm _ _

/-- In every run, the events of a product are a story of its own. -/
theorem story_of_run {events : List Event} {session : Session}
    (hrun : Run capability subject events session) (product : Product) :
    Story capability subject product (eventsOf product events) (session product) := by
  induction hrun with
  | start => exact .ready
  | @step events session next event hrun hstep ih =>
      -- One story goes on, and all others stay as they are.
      by_cases hproduct : event.product = product
      · subst hproduct
        rw [eventsOf_append_self rfl]
        exact ih.step hstep
      · rw [eventsOf_append_other hproduct, hstep.apply_of_ne hproduct]
        exact ih

theorem Story.nodup {own : List Event} {call : Call}
    (hstory : Story capability subject product own call) : own.Nodup := by
  cases hstory <;> simp

theorem Story.length_le {own : List Event} {call : Call}
    (hstory : Story capability subject product own call) : own.length ≤ 2 := by
  cases hstory <;> simp

/-- Only a model is asked, and for each product with the prompt of its own. -/
theorem Story.asked_mem {own : List Event} {call : Call} {prompt : String}
    (hstory : Story capability subject product own call)
    (hmem : .asked product prompt ∈ own) :
    product ∈ capability.asked ∧ prompt = product.prompt subject.outline := by
  cases hstory with
  | ready | filled => simp at hmem
  | asked hcapability | answered hcapability reply =>
      subst hcapability
      simp only [List.mem_cons, Event.asked.injEq, true_and, reduceCtorEq, List.not_mem_nil,
        or_false] at hmem
      exact ⟨product.mem_all, hmem⟩

/-! ## Runs -/

variable {events : List Event} {session : Session}

theorem mem_eventsOf {event : Event} :
    event ∈ eventsOf product events ↔ event ∈ events ∧ event.product = product := by
  rw [eventsOf, List.mem_filter, decide_eq_true_eq]

/-- Nothing happens twice, since it would happen twice in the story of its product. -/
theorem nodup_of_run (hrun : Run capability subject events session) : events.Nodup := by
  rw [List.nodup_iff_count_le_one]
  intro event
  have hcount : (eventsOf event.product events).count event = events.count event :=
    List.count_filter (by simp)
  rw [← hcount]
  exact List.nodup_iff_count_le_one.mp (story_of_run hrun event.product).nodup event

/-- Every event is one of its product. -/
theorem length_eq_add (events : List Event) :
    events.length = (eventsOf .documentation events).length
      + (eventsOf .refactoring events).length + (eventsOf .improvements events).length := by
  induction events with
  | nil => rfl
  | cons event events ih =>
      rw [List.length_cons, ih]
      cases hproduct : event.product <;> simp [eventsOf, hproduct] <;> omega

/-- No session goes on for ever. -/
theorem length_le_of_run (hrun : Run capability subject events session) :
    events.length ≤ 2 * Product.all.length := by
  have hdocumentation := (story_of_run hrun .documentation).length_le
  have hrefactoring := (story_of_run hrun .refactoring).length_le
  have himprovements := (story_of_run hrun .improvements).length_le
  have hproducts : Product.all.length = 3 := rfl
  rw [length_eq_add]
  omega

/-- A call that has no result yet can go on. -/
theorem exists_step (hrun : Run capability subject events session) (product : Product) :
    session product = .settled (capability.produce subject product)
      ∨ ∃ event next, Step capability subject session event next := by
  have hstory := story_of_run hrun product
  generalize eventsOf product events = own at hstory
  cases hcall : session product with
  | ready =>
      cases hcapability : capability with
      | available model => exact .inr ⟨_, _, .ask product rfl hcall⟩
      | unavailable reason => exact .inr ⟨_, _, .fill product rfl hcall⟩
  | asked =>
      rw [hcall] at hstory
      cases hstory with
      | asked hcapability => exact .inr ⟨_, _, .answer product hcapability hcall rfl⟩
  | settled result =>
      rw [hcall] at hstory
      cases hstory with
      | filled | answered => exact .inl rfl

/-- A session goes on until it has all documents. -/
theorem finished_or_exists_step (hrun : Run capability subject events session) :
    session = finished (capability.document subject)
      ∨ ∃ event next, Step capability subject session event next := by
  -- Where nothing can happen any more, every call has its result.
  by_cases hstep : ∃ event next, Step capability subject session event next
  · exact .inr hstep
  · refine .inl (funext fun product => ?_)
    rw [finished, Capability.get_document]
    exact (exists_step hrun product).resolve_right hstep

end Session

/-- Documents are produced whatever the model does.  Each product is the text
    that the model gives for the product's own prompt, if there is one with
    something to see in it, and else the product's own template.  The replies to
    the three prompts are free of each other, and a product depends on the reply
    to its own prompt alone.  Asked for at the same time, the products come out
    the same in any order of events; each model is asked once for each product,
    and without a model nothing is asked. -/
theorem document_outcome (subject : Subject) :
    (∀ capability : Capability, ∀ product : Product,
        let generated := (capability.document subject).get product
        (∀ text, generated = ⟨text, .model⟩ ↔ capability.Answers subject product text)
          ∧ (generated = ⟨product.template subject, .fallback⟩
              ↔ ∀ text, ¬ capability.Answers subject product text)
          ∧ allBlank generated.text.toList = false)
      ∧ (∀ replies : Product → Reply, ∃ model : Model, ∀ product : Product,
          model.reply (product.prompt subject.outline) = replies product)
      ∧ (∀ model other : Model, ∀ product : Product,
          model.reply (product.prompt subject.outline)
              = other.reply (product.prompt subject.outline) →
            ((Capability.available model).document subject).get product
              = ((Capability.available other).document subject).get product)
      ∧ ∀ (capability : Capability) (events : List Event) (session : Session),
          Session.Run capability subject events session →
            (session = Session.finished (capability.document subject)
              ∨ ∃ event next, Session.Step capability subject session event next)
            ∧ events.length ≤ 2 * Product.all.length
            ∧ events.Nodup
            ∧ (∀ product prompt, .asked product prompt ∈ events →
                product ∈ capability.asked ∧ prompt = product.prompt subject.outline)
            ∧ ∀ reason, capability = .unavailable reason →
                ∀ product prompt, .asked product prompt ∉ events := by
  have hasked : ∀ {capability events session}, Session.Run capability subject events session →
      ∀ product prompt, .asked product prompt ∈ events →
        product ∈ capability.asked ∧ prompt = product.prompt subject.outline :=
    fun hrun product prompt hmem =>
      (Session.story_of_run hrun product).asked_mem (Session.mem_eventsOf.mpr ⟨hmem, rfl⟩)
  refine ⟨fun capability product => ?_, exists_model subject.outline,
    fun model other product hreply => ?_, fun capability events session hrun => ?_⟩
  · intro generated
    have hgenerated : generated = capability.produce subject product :=
      capability.get_document subject product
    rw [hgenerated]
    exact ⟨fun text => Capability.produce_eq_model_iff, Capability.produce_eq_fallback_iff,
      capability.allBlank_produce subject product⟩
  · rw [Capability.get_document, Capability.get_document, produce_available, produce_available,
      hreply]
  · refine ⟨Session.finished_or_exists_step hrun, Session.length_le_of_run hrun,
      Session.nodup_of_run hrun, hasked hrun, ?_⟩
    rintro reason rfl product prompt hmem
    have hnone := (hasked hrun product prompt hmem).1
    cases hnone

end SnippetScope.Docs
