import Courier.Keyed

namespace Courier.Keyed

/-! What stands under a key.

An ascending list is determined by what `find?` gives for every key, and
`ofList` stores under every key what comes last under it. -/

variable {β : Type}

theorem find?_nil (key : String) : find? key ([] : List (String × β)) = none := rfl

theorem find?_cons (key : String) (entry : String × β) (rest : List (String × β)) :
    find? key (entry :: rest) = if entry.1 = key then some entry.2 else find? key rest := by
  by_cases same : entry.1 = key <;> simp [find?, same]

theorem find?_append (key : String) (front rest : List (String × β)) :
    find? key (front ++ rest) = (find? key front).or (find? key rest) := by
  unfold find?
  rw [List.find?_append]
  cases front.find? fun entry => entry.1 == key <;> rfl

theorem find?_map {γ : Type} (key : String) (convert : β → γ) (entries : List (String × β)) :
    find? key (entries.map fun entry => (entry.1, convert entry.2)) =
      (find? key entries).map convert := by
  induction entries with
  | nil => rfl
  | cons entry rest inductionHypothesis =>
      rw [List.map_cons, find?_cons, find?_cons, inductionHypothesis]
      split <;> rfl

theorem ascending_map {γ : Type} {convert : β → γ} {entries : List (String × β)} :
    Ascending (entries.map fun entry => (entry.1, convert entry.2)) ↔ Ascending entries :=
  List.pairwise_map

/-- Whether a list is ascending depends on its keys alone. -/
theorem ascending_of_keys {γ : Type} {left : List (String × β)} {right : List (String × γ)}
    (same : left.map Prod.fst = right.map Prod.fst) (ascending : Ascending right) :
    Ascending left := by
  have keys : (left.map Prod.fst).Pairwise Precedes := same ▸ List.pairwise_map.2 ascending
  exact List.pairwise_map.1 keys

theorem mem_of_find? {key : String} {value : β} {entries : List (String × β)}
    (found : find? key entries = some value) : (key, value) ∈ entries := by
  induction entries with
  | nil => cases found
  | cons entry rest inductionHypothesis =>
      rw [find?_cons] at found
      split at found
      · rename_i same
        cases found
        exact same ▸ List.mem_cons_self
      · exact List.mem_cons_of_mem _ (inductionHypothesis found)

theorem find?_eq_none_of_precedes {key : String} {entries : List (String × β)}
    (before : ∀ entry ∈ entries, Precedes key entry.1) : find? key entries = none := by
  cases found : find? key entries with
  | none => rfl
  | some value => exact absurd (before _ (mem_of_find? found)) (Precedes.irrefl key)

/-- What stands in an ascending list is found under its key. -/
theorem find?_of_mem {key : String} {value : β} {entries : List (String × β)}
    (ascending : Ascending entries) (member : (key, value) ∈ entries) :
    find? key entries = some value := by
  induction entries with
  | nil => cases member
  | cons entry rest inductionHypothesis =>
      obtain ⟨above, below⟩ := List.pairwise_cons.1 ascending
      rw [find?_cons]
      rcases List.mem_cons.1 member with same | later
      · rw [if_pos (congrArg Prod.fst same).symm, ← same]
      · have different : entry.1 ≠ key := by
          intro same
          have before := above (key, value) later
          exact Precedes.irrefl key (same ▸ before)
        rw [if_neg different, inductionHypothesis below later]

/-- In an ascending list the last value under a key is the only one. -/
theorem find?_reverse {entries : List (String × β)} (ascending : Ascending entries) (key : String) :
    find? key entries.reverse = find? key entries := by
  induction entries with
  | nil => rfl
  | cons entry rest inductionHypothesis =>
      obtain ⟨above, below⟩ := List.pairwise_cons.1 ascending
      rw [List.reverse_cons, find?_append, inductionHypothesis below, find?_cons, find?_cons,
        find?_nil]
      split
      · rename_i same
        rw [find?_eq_none_of_precedes (same ▸ above), Option.none_or]
      · rw [Option.or_none]

theorem Ascending.nodup {entries : List (String × β)} (ascending : Ascending entries) :
    entries.Nodup := by
  refine List.Pairwise.imp ?_ ascending
  rintro left right before rfl
  exact Precedes.irrefl _ before

/-- Ascending lists with the same values under the same keys are equal. -/
theorem eq_of_find? {left right : List (String × β)} (leftAscending : Ascending left)
    (rightAscending : Ascending right) (same : ∀ key, find? key left = find? key right) :
    left = right := by
  have members : ∀ entry, entry ∈ left ↔ entry ∈ right := by
    intro entry
    constructor
    · intro member
      exact mem_of_find? ((same entry.1).symm.trans (find?_of_mem leftAscending member))
    · intro member
      exact mem_of_find? ((same entry.1).trans (find?_of_mem rightAscending member))
  have permuted :=
    (List.perm_ext_iff_of_nodup leftAscending.nodup rightAscending.nodup).2 members
  refine permuted.eq_of_pairwise ?_ leftAscending rightAscending
  intro entry other _ _ before after
  exact absurd (before.trans after) (Precedes.irrefl _)

theorem find?_insert (key wanted : String) (value : β) (entries : List (String × β)) :
    find? wanted (insert key value entries) =
      if key = wanted then some value else find? wanted entries := by
  induction entries with
  | nil => rw [insert, find?_cons]
  | cons entry rest inductionHypothesis =>
      unfold insert
      split
      · rw [find?_cons]
      · split
        · rename_i same
          rw [find?_cons, find?_cons, ← same]
          split <;> rfl
        · rename_i different
          rw [find?_cons, find?_cons, inductionHypothesis]
          split
          · rename_i here
            rw [if_neg (here ▸ different)]
          · rfl

theorem find?_erase (key wanted : String) (entries : List (String × β)) :
    find? wanted (erase key entries) = if key = wanted then none else find? wanted entries := by
  induction entries with
  | nil => simp [erase, find?_nil]
  | cons entry rest inductionHypothesis =>
      by_cases gone : entry.1 = key
      · have dropped : erase key (entry :: rest) = erase key rest := by simp [erase, gone]
        rw [dropped, inductionHypothesis, find?_cons, gone]
        split <;> rfl
      · have kept : erase key (entry :: rest) = entry :: erase key rest := by simp [erase, gone]
        rw [kept, find?_cons, find?_cons, inductionHypothesis]
        split
        · rename_i here
          rw [if_neg fun same => gone (here.trans same.symm)]
        · rfl

theorem find?_insertNew (key wanted : String) (value : β) {entries : List (String × β)}
    (ascending : Ascending entries) :
    find? wanted (insertNew key value entries) =
      (find? wanted entries).or (if key = wanted then some value else none) := by
  induction entries with
  | nil => simp [insertNew, find?_cons, find?_nil]
  | cons entry rest inductionHypothesis =>
      obtain ⟨above, below⟩ := List.pairwise_cons.1 ascending
      unfold insertNew
      split
      · rename_i before
        rw [find?_cons]
        split
        · rename_i same
          have absent : find? wanted (entry :: rest) = none := by
            refine find?_eq_none_of_precedes fun other member => ?_
            rcases List.mem_cons.1 member with rfl | later
            · exact same ▸ before
            · exact same ▸ before.trans (above other later)
          rw [absent]
          rfl
        · rw [Option.or_none]
      · split
        · rename_i same
          rw [find?_cons]
          split <;> simp_all
        · rw [find?_cons, find?_cons, inductionHypothesis below]
          split <;> simp

/-- Under every key `ofList` stores what comes last under it. -/
theorem find?_ofList (key : String) (pairs : List (String × β)) :
    find? key (ofList pairs) = find? key pairs.reverse := by
  induction pairs with
  | nil => rfl
  | cons pair rest inductionHypothesis =>
      rw [List.reverse_cons, find?_append, ← inductionHypothesis, find?_cons, find?_nil]
      exact find?_insertNew pair.1 key pair.2 (ascending_ofList rest)

theorem mem_of_mem_ofList {entry : String × β} {pairs : List (String × β)}
    (member : entry ∈ ofList pairs) : entry ∈ pairs := by
  induction pairs with
  | nil => cases member
  | cons pair rest inductionHypothesis =>
      rcases mem_of_mem_insertNew member with same | stored
      · exact same ▸ List.mem_cons_self
      · exact List.mem_cons_of_mem _ (inductionHypothesis stored)

/-- An ascending list is in order already. -/
theorem ofList_of_ascending {pairs : List (String × β)} (ascending : Ascending pairs) :
    ofList pairs = pairs := by
  refine eq_of_find? (ascending_ofList pairs) ascending fun key => ?_
  rw [find?_ofList, find?_reverse ascending]

end Courier.Keyed
