/-
  SnippetScope.Proofs.Json.Fields

  Records that were written as objects.  Each field is found as it was written,
  or missing if it was left out (`fields?_object`).
-/
import SnippetScope.Proofs.Json.RoundTrip
import Mathlib.Data.List.Nodup

namespace SnippetScope.Json

/-! ## Single values -/

theorem text?_string (text : String) : (asWritten (.string text)).text? = some text := by
  rw [asWritten, Written.text?, textOf?_between, Option.map_some, String.ofList_toList]

theorem natural?_number (n : Nat) : (asWritten (.number n)).natural? = some n := by
  rw [asWritten, Written.natural?, naturalOf?_writeNumber]

theorem allAsWritten_eq_map (items : List Json) : allAsWritten items = items.map asWritten := by
  induction items with
  | nil => rfl
  | cons item items ih => rw [allAsWritten, ih, List.map_cons]

/-- Items that read back one by one read back together. -/
theorem list?_array {α : Type} {write : α → Json} {read : Written → Option α}
    (h : ∀ a, read (asWritten (write a)) = some a) (values : List α) :
    Written.list? read (asWritten (.array (values.map write))) = some values := by
  have hread : read ∘ asWritten ∘ write = some := funext h
  rw [asWritten, Written.list?, allAsWritten_eq_map, List.map_map, List.mapM_map, hread]
  exact (List.mapM_pure (f := id)).trans (by rw [List.map_id]; rfl)

theorem asWritten_eq_null {value : Json} (h : asWritten value = .null) : value = .null := by
  cases value <;> simp [asWritten] at h ⊢

/-- A value that may be missing, if no value is written as `null`. -/
theorem withDefault_nullable {α : Type} {write : α → Json} {read : Written → Option α}
    (h : ∀ a, read (asWritten (write a)) = some a) (hnull : ∀ a, write a ≠ .null)
    (value : Option α) :
    Written.withDefault none (Written.nullable read) (value.map fun a => asWritten (write a))
      = some value := by
  cases value with
  | none => rfl
  | some a =>
      rw [Option.map_some, Written.withDefault, Written.nullable, h]
      · rfl
      · exact fun heq => hnull a (asWritten_eq_null heq)

/-! ## Members -/

theorem namedMembers?_membersAsWritten (members : List (String × Json)) :
    Written.namedMembers? (membersAsWritten members)
      = some (members.map fun m => (m.1.toList, asWritten m.2)) := by
  induction members with
  | nil => rfl
  | cons member members ih =>
      rw [membersAsWritten, Written.namedMembers?, textOf?_between, ih]
      rfl

/-- Under distinct names there is one member with a name, if any. -/
theorem filter_eq_lookup {members : List (String × Json)}
    (hdistinct : (members.map Prod.fst).Nodup) (name : String) :
    members.filter (fun m => m.1 = name) = (members.lookup name).toList.map fun v => (name, v) := by
  induction members with
  | nil => rfl
  | cons member members ih =>
      obtain ⟨key, value⟩ := member
      rw [List.map_cons, List.nodup_cons] at hdistinct
      obtain ⟨hnew, hdistinct⟩ := hdistinct
      by_cases hkey : key = name
      · subst hkey
        -- No later member has the name, so nothing else passes the filter.
        have hnone : members.lookup key = none := by
          rw [List.lookup_eq_none_iff]
          intro m hm
          rw [bne_iff_ne]
          rintro rfl
          exact hnew (List.mem_map.mpr ⟨m, hm, rfl⟩)
        rw [List.filter_cons_of_pos (by simp), ih hdistinct, hnone, List.lookup_cons_self]
        rfl
      · rw [List.filter_cons_of_neg (by simpa using hkey), ih hdistinct, List.lookup_cons,
          beq_false_of_ne (Ne.symm hkey)]

theorem onlyMember?_eq_lookup {members : List (String × Json)}
    (hdistinct : (members.map Prod.fst).Nodup) (name : String) :
    Written.onlyMember? name (members.map fun m => (m.1.toList, asWritten m.2))
      = some ((members.lookup name).map asWritten) := by
  have hfilter : (members.map fun m => (m.1.toList, asWritten m.2)).filter
        (fun m => m.1 = name.toList)
      = ((members.lookup name).toList.map fun v => (name, v)).map
        fun m => (m.1.toList, asWritten m.2) := by
    rw [← filter_eq_lookup hdistinct, List.filter_map]
    congr 1
    refine List.filter_congr fun m _ => ?_
    simp [String.toList_inj]
  rw [Written.onlyMember?, hfilter]
  cases members.lookup name with
  | none => rfl
  | some value => rfl

/-- The fields of a record that was written as an object; members may be left
    out. -/
theorem fields?_object {members : List (String × Json)} {names : List String}
    (hkeys : (members.map Prod.fst).Sublist names) (hnames : names.Nodup) :
    Written.fields? names (asWritten (.object members))
      = some (names.map fun name => (members.lookup name).map asWritten) := by
  have hmembers : (fun name =>
        Written.onlyMember? name (members.map fun m => (m.1.toList, asWritten m.2)))
      = fun name => some ((members.lookup name).map asWritten) :=
    funext (onlyMember?_eq_lookup (hkeys.nodup hnames))
  rw [asWritten, Written.fields?, namedMembers?_membersAsWritten]
  simp only [Option.bind_eq_bind, Option.bind_some, hmembers]
  exact List.mapM_pure

end SnippetScope.Json
