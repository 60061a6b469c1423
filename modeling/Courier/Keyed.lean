import Courier.Text.Utf8

namespace Courier.Keyed

/-! Association lists in ascending order of their keys.

Keys are ordered by their UTF-8 bytes.  `insert`, `insertNew` and `erase` keep
the order, and `ofList` puts pairs in order, a later pair winning over an
earlier one of the same key. -/

variable {β : Type}

def Precedes (left right : String) : Prop :=
  Utf8.bytes left < Utf8.bytes right

instance (left right : String) : Decidable (Precedes left right) :=
  inferInstanceAs (Decidable (Utf8.bytes left < Utf8.bytes right))

def Ascending (entries : List (String × β)) : Prop :=
  entries.Pairwise fun left right => Precedes left.1 right.1

instance (entries : List (String × β)) : Decidable (Ascending entries) :=
  inferInstanceAs (Decidable (entries.Pairwise fun left right => Precedes left.1 right.1))

/-- Stores a value under a key, in place of the one stored there before. -/
def insert (key : String) (value : β) : List (String × β) → List (String × β)
  | [] => [(key, value)]
  | entry :: rest =>
      if Precedes key entry.1 then (key, value) :: entry :: rest
      else if key = entry.1 then (key, value) :: rest
      else entry :: insert key value rest

/-- Stores a value under a key unless something is stored there. -/
def insertNew (key : String) (value : β) : List (String × β) → List (String × β)
  | [] => [(key, value)]
  | entry :: rest =>
      if Precedes key entry.1 then (key, value) :: entry :: rest
      else if key = entry.1 then entry :: rest
      else entry :: insertNew key value rest

def erase (key : String) (entries : List (String × β)) : List (String × β) :=
  entries.filter fun entry => entry.1 != key

def find? (key : String) (entries : List (String × β)) : Option β :=
  (entries.find? fun entry => entry.1 == key).map Prod.snd

/-- The pairs in key order, the last of each key. -/
def ofList (pairs : List (String × β)) : List (String × β) :=
  pairs.foldr (fun pair entries => insertNew pair.1 pair.2 entries) []

theorem Precedes.trans {first second third : String} (left : Precedes first second)
    (right : Precedes second third) : Precedes first third :=
  List.lt_trans left right

theorem Precedes.irrefl (key : String) : ¬ Precedes key key :=
  List.lt_irrefl _

/-- Of two keys neither of which precedes the other, both are the same. -/
theorem precedes_of_ne {left right : String} (notBefore : ¬ Precedes left right)
    (different : left ≠ right) : Precedes right left := by
  have weak : Utf8.bytes right ≤ Utf8.bytes left := List.not_lt.1 notBefore
  rcases List.le_iff_lt_or_eq.1 weak with before | same
  · exact before
  · exact absurd (Utf8.bytes_injective same).symm different

theorem mem_of_mem_insert {key : String} {value : β} {entry : String × β}
    {entries : List (String × β)} (member : entry ∈ insert key value entries) :
    entry = (key, value) ∨ entry ∈ entries := by
  induction entries with
  | nil => simpa [insert] using member
  | cons head rest inductionHypothesis =>
      unfold insert at member
      split at member
      · simpa using member
      · split at member
        · rcases List.mem_cons.1 member with same | later
          · exact .inl same
          · exact .inr (List.mem_cons_of_mem _ later)
        · rcases List.mem_cons.1 member with same | later
          · exact .inr (same ▸ List.mem_cons_self)
          · exact (inductionHypothesis later).imp id (List.mem_cons_of_mem _)

theorem mem_of_mem_insertNew {key : String} {value : β} {entry : String × β}
    {entries : List (String × β)} (member : entry ∈ insertNew key value entries) :
    entry = (key, value) ∨ entry ∈ entries := by
  induction entries with
  | nil => simpa [insertNew] using member
  | cons head rest inductionHypothesis =>
      unfold insertNew at member
      split at member
      · simpa using member
      · split at member
        · exact .inr member
        · rcases List.mem_cons.1 member with same | later
          · exact .inr (same ▸ List.mem_cons_self)
          · exact (inductionHypothesis later).imp id (List.mem_cons_of_mem _)

theorem ascending_nil : Ascending ([] : List (String × β)) :=
  List.Pairwise.nil

theorem ascending_insert {entries : List (String × β)} (ascending : Ascending entries)
    (key : String) (value : β) : Ascending (insert key value entries) := by
  induction entries with
  | nil => exact List.pairwise_singleton _ _
  | cons head rest inductionHypothesis =>
      have above := (List.pairwise_cons.1 ascending).1
      have below := (List.pairwise_cons.1 ascending).2
      unfold insert
      split
      · rename_i before
        refine List.pairwise_cons.2 ⟨?_, ascending⟩
        intro entry member
        rcases List.mem_cons.1 member with same | later
        · exact same ▸ before
        · exact before.trans (above entry later)
      · rename_i notBefore
        split
        · rename_i same
          exact List.pairwise_cons.2 ⟨fun entry later => same ▸ above entry later, below⟩
        · rename_i different
          refine List.pairwise_cons.2 ⟨?_, inductionHypothesis below⟩
          intro entry member
          rcases mem_of_mem_insert member with same | later
          · exact same ▸ precedes_of_ne notBefore different
          · exact above entry later

theorem ascending_insertNew {entries : List (String × β)} (ascending : Ascending entries)
    (key : String) (value : β) : Ascending (insertNew key value entries) := by
  induction entries with
  | nil => exact List.pairwise_singleton _ _
  | cons head rest inductionHypothesis =>
      have above := (List.pairwise_cons.1 ascending).1
      have below := (List.pairwise_cons.1 ascending).2
      unfold insertNew
      split
      · rename_i before
        refine List.pairwise_cons.2 ⟨?_, ascending⟩
        intro entry member
        rcases List.mem_cons.1 member with same | later
        · exact same ▸ before
        · exact before.trans (above entry later)
      · rename_i notBefore
        split
        · exact ascending
        · rename_i different
          refine List.pairwise_cons.2 ⟨?_, inductionHypothesis below⟩
          intro entry member
          rcases mem_of_mem_insertNew member with same | later
          · exact same ▸ precedes_of_ne notBefore different
          · exact above entry later

theorem ascending_erase {entries : List (String × β)} (ascending : Ascending entries)
    (key : String) : Ascending (erase key entries) :=
  List.Pairwise.filter _ ascending

theorem ascending_ofList (pairs : List (String × β)) : Ascending (ofList pairs) := by
  induction pairs with
  | nil => exact ascending_nil
  | cons pair rest inductionHypothesis =>
      exact ascending_insertNew inductionHypothesis pair.1 pair.2

end Courier.Keyed
