/-
  SnippetScope.Proofs.Json.Records

  Records with one field.  Which values are read from a document is said by
  rules (`OneField`, `IsArray`, `IsNullable`), and the readers follow them.  What
  is added to a document beside its field is never seen (`oneField?_gains`).
-/
import SnippetScope.Json.Record
import Mathlib.Data.List.Forall2

namespace SnippetScope.Json.Written

variable {α : Type} {name : String} {key : List Symbol} {value : Written}
  {members : List (List Symbol × Written)}

/-! ## Members -/

/-- The key denotes a text other than the name. -/
def IsOther (name : String) (key : List Symbol) : Prop :=
  ∃ other, textOf? key = some other ∧ other ≠ name.toList

/-- The value of the member with the name, if there is one among the members.
    There is at most one, and every key denotes a text. -/
inductive MemberOf (name : String) : List (List Symbol × Written) → Option Written → Prop where
  | nil : MemberOf name [] none
  | other {key : List Symbol} {value : Written} {members : List (List Symbol × Written)}
      {found : Option Written} (hkey : IsOther name key) (h : MemberOf name members found) :
      MemberOf name ((key, value) :: members) found
  | given {key : List Symbol} {value : Written} {members : List (List Symbol × Written)}
      (hkey : textOf? key = some name.toList) (h : MemberOf name members none) :
      MemberOf name ((key, value) :: members) (some value)

/-- The value of the member with the name, as it is found in a record. -/
def member? (name : String) (members : List (List Symbol × Written)) : Option (Option Written) :=
  (namedMembers? members).bind (onlyMember? name)

theorem member?_cons_other (hkey : IsOther name key) :
    member? name ((key, value) :: members) = member? name members := by
  obtain ⟨other, htext, hother⟩ := hkey
  rw [member?, member?, namedMembers?, htext]
  cases namedMembers? members with
  | none => rfl
  | some named => simp [onlyMember?, hother]

/-- Behind a member with the name, there may be no other. -/
theorem member?_cons_self (hkey : textOf? key = some name.toList) :
    member? name ((key, value) :: members)
      = match member? name members with
        | some none => some (some value)
        | _ => none := by
  rw [member?, member?, namedMembers?, hkey]
  cases namedMembers? members with
  | none => rfl
  | some named =>
      have hself : ((name.toList, value) :: named).filter (·.1 = name.toList)
          = (name.toList, value) :: named.filter (·.1 = name.toList) :=
        List.filter_cons_of_pos (by simp)
      show onlyMember? name ((name.toList, value) :: named) = _
      -- Whether it is the only one depends on how many others the filter keeps.
      rw [onlyMember?, hself]
      simp only [Option.bind_some, onlyMember?]
      cases named.filter (·.1 = name.toList) with
      | nil => rfl
      | cons first others => cases others <;> rfl

theorem member?_cons_garbled (hkey : textOf? key = none) :
    member? name ((key, value) :: members) = none := by
  rw [member?, namedMembers?, hkey]
  rfl

/-- Every key denotes no text, the name or another text. -/
theorem key_cases (name : String) (key : List Symbol) :
    textOf? key = none ∨ textOf? key = some name.toList ∨ IsOther name key := by
  cases htext : textOf? key with
  | none => exact .inl rfl
  | some text =>
      by_cases hname : text = name.toList
      · exact .inr (.inl (by rw [hname]))
      · exact .inr (.inr ⟨text, htext, hname⟩)

theorem member?_eq_some_iff {found : Option Written} :
    member? name members = some found ↔ MemberOf name members found := by
  constructor
  · intro h
    induction members generalizing found with
    | nil =>
        cases h
        exact .nil
    | cons member members ih =>
        obtain ⟨key, value⟩ := member
        rcases key_cases name key with hkey | hkey | hkey
        · rw [member?_cons_garbled hkey] at h
          cases h
        · rw [member?_cons_self hkey] at h
          split at h
          · rename_i hnone
            cases h
            exact .given hkey (ih hnone)
          · cases h
        · rw [member?_cons_other hkey] at h
          exact .other hkey (ih h)
  · intro h
    induction h with
    | nil => rfl
    | other hkey h ih => rw [member?_cons_other hkey, ih]
    | given hkey h ih => rw [member?_cons_self hkey, ih]

/-! ## Fields -/

/-- The value of the field in a record that has no others, if it is given.  The
    record is an object, or an array of its fields. -/
inductive HasField (name : String) : Written → Option Written → Prop where
  | object {members : List (List Symbol × Written)} {found : Option Written}
      (h : MemberOf name members found) : HasField name (.object members) found
  | noItem : HasField name (.array []) none
  | item {value : Written} : HasField name (.array [value]) (some value)

/-- The value of the field, as it is found in a record that has no others. -/
def field? (name : String) : Written → Option (Option Written)
  | object members => member? name members
  | array [] => some none
  | array [value] => some (some value)
  | _ => none

theorem fields?_eq_map (name : String) (record : Written) :
    fields? [name] record = (field? name record).map ([·]) := by
  cases record with
  | object members =>
      rw [fields?, field?, member?]
      cases namedMembers? members with
      | none => rfl
      | some named =>
          show [name].mapM (fun name => onlyMember? name named) = (onlyMember? name named).map ([·])
          rw [List.mapM_cons, List.mapM_nil]
          cases onlyMember? name named <;> rfl
  | array items =>
      match items with
      | [] | [_] | _ :: _ :: _ => simp [fields?, field?]
  | null | bool | number | string => rfl

theorem field?_eq_some_iff {record : Written} {found : Option Written} :
    field? name record = some found ↔ HasField name record found := by
  constructor
  · intro h
    rw [field?.eq_def] at h
    split at h
    · exact .object (member?_eq_some_iff.mp h)
    · cases h
      exact .noItem
    · cases h
      exact .item
    · cases h
  · rintro (h | h | h)
    · exact member?_eq_some_iff.mpr h
    · rfl
    · rfl

/-- What is read from a record with one field. -/
inductive OneField (name : String) (standard : α) (Reads : Written → α → Prop)
    (record : Written) : α → Prop where
  | missing (h : HasField name record none) : OneField name standard Reads record standard
  | given {value : Written} {a : α} (h : HasField name record (some value)) (ha : Reads value a) :
      OneField name standard Reads record a

/-- Reads a record with one field. -/
def oneField? (name : String) (standard : α) (read : Written → Option α) (record : Written) :
    Option α := do
  match ← fields? [name] record with
  | [field] => withDefault standard read field
  | _ => none

theorem oneField?_eq_bind (name : String) (standard : α) (read : Written → Option α)
    (record : Written) :
    oneField? name standard read record
      = (field? name record).bind (withDefault standard read) := by
  rw [oneField?, fields?_eq_map]
  cases field? name record <;> rfl

variable {standard : α} {read : Written → Option α} {Reads : Written → α → Prop}

theorem oneField?_eq_some_iff (hread : ∀ value a, read value = some a ↔ Reads value a)
    {record : Written} {a : α} :
    oneField? name standard read record = some a ↔ OneField name standard Reads record a := by
  rw [oneField?_eq_bind, Option.bind_eq_some_iff]
  constructor
  · rintro ⟨found, hfield, h⟩
    have hfound := field?_eq_some_iff.mp hfield
    cases found with
    | none =>
        cases h
        exact .missing hfound
    | some value => exact .given hfound ((hread value a).mp h)
  · rintro (h | ⟨h, ha⟩)
    · exact ⟨none, field?_eq_some_iff.mpr h, rfl⟩
    · exact ⟨_, field?_eq_some_iff.mpr h, (hread _ a).mpr ha⟩

/-! ## Values of fields -/

/-- A string, and the text that it denotes. -/
inductive IsText : Written → String → Prop where
  | string {inner : List Symbol} {text : List Char} (h : textOf? inner = some text) :
      IsText (.string inner) (String.ofList text)

/-- An array, and what is read from its items. -/
inductive IsArray (Reads : Written → α → Prop) : Written → List α → Prop where
  | array {items : List Written} {read : List α} (h : List.Forall₂ Reads items read) :
      IsArray Reads (.array items) read

/-- Nothing for `null`, and what is read from any other value. -/
inductive IsNullable (Reads : Written → α → Prop) : Written → Option α → Prop where
  | null : IsNullable Reads .null none
  | value {value : Written} {a : α} (hvalue : value ≠ .null) (h : Reads value a) :
      IsNullable Reads value (some a)

theorem text?_eq_some_iff {text : String} : value.text? = some text ↔ IsText value text := by
  constructor
  · intro h
    cases value with
    | string inner =>
        obtain ⟨denoted, htext, rfl⟩ := Option.map_eq_some_iff.mp h
        exact .string htext
    | null | bool | number | array | object => cases h
  · rintro ⟨h⟩
    rw [text?, h]
    rfl

theorem mapM_eq_some_iff {items : List Written} {as : List α}
    (hread : ∀ value a, read value = some a ↔ Reads value a) :
    items.mapM read = some as ↔ List.Forall₂ Reads items as := by
  induction items generalizing as with
  | nil => simp [eq_comm]
  | cons item items ih =>
      rw [List.mapM_cons]
      constructor
      · intro h
        obtain ⟨a, ha, h⟩ := Option.bind_eq_some_iff.mp h
        obtain ⟨others, hothers, h⟩ := Option.bind_eq_some_iff.mp h
        cases h
        exact .cons ((hread item a).mp ha) (ih.mp hothers)
      · rintro (_ | ⟨ha, hothers⟩)
        rw [(hread item _).mpr ha, ih.mpr hothers]
        rfl

theorem list?_eq_some_iff (hread : ∀ value a, read value = some a ↔ Reads value a)
    {as : List α} : list? read value = some as ↔ IsArray Reads value as := by
  constructor
  · intro h
    cases value with
    | array items => exact .array ((mapM_eq_some_iff hread).mp h)
    | null | bool | number | string | object => cases h
  · rintro ⟨h⟩
    exact (mapM_eq_some_iff hread).mpr h

theorem nullable_eq_some_iff (hread : ∀ value a, read value = some a ↔ Reads value a)
    {a? : Option α} : nullable read value = some a? ↔ IsNullable Reads value a? := by
  constructor
  · intro h
    rw [nullable.eq_def] at h
    split at h
    · cases h
      exact .null
    · rename_i hvalue
      obtain ⟨a, ha, rfl⟩ := Option.map_eq_some_iff.mp h
      exact .value hvalue ((hread value a).mp ha)
  · rintro (_ | ⟨hvalue, h⟩)
    · rfl
    · rw [nullable, (hread value _).mpr h]
      · rfl
      · exact hvalue

/-! ## What is added beside the field -/

variable {Gains : Written → Written → Prop}

/-- The second members have the first, at the same keys and in the same order,
    and any others that are not the one with the name.  Only the value of that
    one matters. -/
inductive MembersGain (name : String) (Gains : Written → Written → Prop) :
    List (List Symbol × Written) → List (List Symbol × Written) → Prop where
  | nil : MembersGain name Gains [] []
  | kept {key : List Symbol} {value value' : Written}
      {members members' : List (List Symbol × Written)}
      (hvalue : textOf? key = some name.toList → Gains value value')
      (h : MembersGain name Gains members members') :
      MembersGain name Gains ((key, value) :: members) ((key, value') :: members')
  | added {key : List Symbol} {value : Written} {members members' : List (List Symbol × Written)}
      (hkey : IsOther name key) (h : MembersGain name Gains members members') :
      MembersGain name Gains members ((key, value) :: members')

/-- The second record has the field of the first. -/
inductive FieldGains (name : String) (Gains : Written → Written → Prop) :
    Written → Written → Prop where
  | object {members members' : List (List Symbol × Written)}
      (h : MembersGain name Gains members members') :
      FieldGains name Gains (.object members) (.object members')
  | item {value value' : Written} (h : Gains value value') :
      FieldGains name Gains (.array [value]) (.array [value'])
  | same {record : Written} : FieldGains name Gains record record

theorem member?_gains {members' : List (List Symbol × Written)}
    (h : MembersGain name Gains members members') :
    Option.Rel (Option.Rel Gains) (member? name members) (member? name members') := by
  induction h with
  | nil => exact .some .none
  | @kept key value value' members members' hvalue h ih =>
      -- The keys are the same, so a record is refused for one with additions or without.
      rcases key_cases name key with hkey | hkey | hkey
      · rw [member?_cons_garbled hkey, member?_cons_garbled hkey]
        exact .none
      · rw [member?_cons_self hkey, member?_cons_self hkey]
        generalize member? name members = found, member? name members' = found' at ih
        cases ih with
        | none => exact .none
        | some ih =>
            cases ih with
            | none => exact .some (.some (hvalue hkey))
            | some => exact .none
      · rw [member?_cons_other hkey, member?_cons_other hkey]
        exact ih
  | added hkey h ih =>
      rw [member?_cons_other hkey]
      exact ih

theorem rel_refl {β : Type} {R : β → β → Prop} (hrefl : ∀ b, R b b) (found : Option β) :
    Option.Rel R found found := by
  cases found with
  | none => exact .none
  | some b => exact .some (hrefl b)

theorem eq_of_rel_eq {β : Type} {found found' : Option β} (h : Option.Rel (· = ·) found found') :
    found = found' := by
  cases h with
  | none => rfl
  | some h => rw [h]

theorem field?_gains (hrefl : ∀ value, Gains value value) {record record' : Written}
    (h : FieldGains name Gains record record') :
    Option.Rel (Option.Rel Gains) (field? name record) (field? name record') := by
  cases h with
  | object h => exact member?_gains h
  | item h => exact .some (.some h)
  | same => exact rel_refl (rel_refl hrefl) _

/-- What is read from a record is read from it with additions: the same up to
    what `Same` leaves out of account. -/
theorem oneField?_gains {Same : α → α → Prop} (hrefl : ∀ value, Gains value value)
    (hstandard : Same standard standard)
    (hread : ∀ value value', Gains value value' → Option.Rel Same (read value) (read value'))
    {record record' : Written} (h : FieldGains name Gains record record') :
    Option.Rel Same (oneField? name standard read record)
      (oneField? name standard read record') := by
  rw [oneField?_eq_bind, oneField?_eq_bind]
  -- Both records are refused, lack the field or have values for it that go together.
  have hfound := field?_gains hrefl h
  generalize field? name record = found, field? name record' = found' at hfound
  cases hfound with
  | none => exact .none
  | some hfound =>
      cases hfound with
      | none => exact .some hstandard
      | some hvalue => exact hread _ _ hvalue

/-- What is read from a record does not change with its additions if it does
    not change with those to the field. -/
theorem oneField?_eq_of_gains (hrefl : ∀ value, Gains value value)
    (hread : ∀ value value', Gains value value' → read value = read value')
    {record record' : Written} (h : FieldGains name Gains record record') :
    oneField? name standard read record = oneField? name standard read record' := by
  refine eq_of_rel_eq (oneField?_gains hrefl rfl (fun value value' hvalue => ?_) h)
  rw [hread value value' hvalue]
  exact rel_refl (fun _ => rfl) _

/-- The second array has the items of the first, each with additions. -/
inductive ItemsGain (Gains : Written → Written → Prop) : Written → Written → Prop where
  | array {items items' : List Written} (h : List.Forall₂ Gains items items') :
      ItemsGain Gains (.array items) (.array items')
  | same {value : Written} : ItemsGain Gains value value

theorem list?_gains (hread : ∀ value value', Gains value value' → read value = read value')
    {value value' : Written} (h : ItemsGain Gains value value') :
    list? read value = list? read value' := by
  cases h with
  | same => rfl
  | array h =>
      rw [list?, list?]
      induction h with
      | nil => rfl
      | cons hitem h ih => rw [List.mapM_cons, List.mapM_cons, hread _ _ hitem, ih]

/-- No addition makes a value of a `null`. -/
theorem nullable_gains {value value' : Written} (h : FieldGains name Gains value value')
    (hread : read value = read value') : nullable read value = nullable read value' := by
  cases h with
  | object h | item h => rw [nullable, nullable, hread] <;> nofun
  | same => rfl

end SnippetScope.Json.Written
