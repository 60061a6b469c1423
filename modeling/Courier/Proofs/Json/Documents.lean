import Courier.Json.Reader
import Courier.Proofs.Keyed
import Courier.Proofs.Number.Shortest

namespace Courier.Json

/-! What holds all through a document.

`Throughout` takes a condition on a document to all the documents in it.  What
reading gives is representable throughout: its integers have 64 bits and its
doubles are finite.  The canonical form is in key order and keeps every
condition that does not depend on the order. -/

mutual

/-- The document and all the documents in it meet a condition. -/
def Throughout (holds : Json → Prop) : Json → Prop
  | .array items => holds (.array items) ∧ ThroughoutItems holds items
  | .object members => holds (.object members) ∧ ThroughoutMembers holds members
  | .null => holds .null
  | .bool value => holds (.bool value)
  | .integer value => holds (.integer value)
  | .double value => holds (.double value)
  | .string value => holds (.string value)

def ThroughoutItems (holds : Json → Prop) : List Json → Prop
  | [] => True
  | item :: rest => item.Throughout holds ∧ ThroughoutItems holds rest

def ThroughoutMembers (holds : Json → Prop) : List (String × Json) → Prop
  | [] => True
  | (_, value) :: rest => value.Throughout holds ∧ ThroughoutMembers holds rest

end

theorem throughoutItems_iff {holds : Json → Prop} {items : List Json} :
    ThroughoutItems holds items ↔ ∀ item ∈ items, item.Throughout holds := by
  induction items with
  | nil => simp [ThroughoutItems]
  | cons item rest inductionHypothesis => simp [ThroughoutItems, inductionHypothesis]

theorem throughoutItems_map {α : Type} {holds : Json → Prop} {leaf : α → Json}
    (all : ∀ value, (leaf value).Throughout holds) (values : List α) :
    ThroughoutItems holds (values.map leaf) := by
  refine throughoutItems_iff.2 fun item listed => ?_
  obtain ⟨value, _, rfl⟩ := List.mem_map.1 listed
  exact all value

theorem throughoutMembers_iff {holds : Json → Prop} {members : List (String × Json)} :
    ThroughoutMembers holds members ↔ ∀ member ∈ members, member.2.Throughout holds := by
  induction members with
  | nil => simp [ThroughoutMembers]
  | cons member rest inductionHypothesis =>
      obtain ⟨key, value⟩ := member
      simp [ThroughoutMembers, inductionHypothesis]

theorem orderedMembers_iff {members : List (String × Json)} :
    OrderedMembers members ↔ ∀ member ∈ members, member.2.Ordered := by
  induction members with
  | nil => simp [OrderedMembers]
  | cons member rest inductionHypothesis =>
      obtain ⟨key, value⟩ := member
      simp [OrderedMembers, inductionHypothesis]

theorem Throughout.holds {condition : Json → Prop} {document : Json}
    (throughout : document.Throughout condition) : condition document := by
  cases document with
  | array items => exact throughout.1
  | object members => exact throughout.1
  | _ => exact throughout

/-! The canonical form. -/

mutual

theorem ordered_canonical : (document : Json) → document.canonical.Ordered
  | .array items => by
      rw [canonical, Ordered]
      exact ordered_canonicalItems items
  | .object members => by
      rw [canonical, Ordered]
      refine ⟨Keyed.ascending_ofList _, orderedMembers_iff.2 fun member listed => ?_⟩
      exact ordered_canonicalMembers members member (Keyed.mem_of_mem_ofList listed)
  | .null | .bool _ | .integer _ | .double _ | .string _ => by simp only [canonical, Ordered]

theorem ordered_canonicalItems : (items : List Json) → OrderedItems (canonicalItems items)
  | [] => trivial
  | item :: rest => ⟨ordered_canonical item, ordered_canonicalItems rest⟩

theorem ordered_canonicalMembers : (members : List (String × Json)) →
    ∀ member ∈ canonicalMembers members, member.2.Ordered
  | [], _, listed => by cases listed
  | (key, value) :: rest, member, listed => by
      rcases List.mem_cons.1 listed with rfl | later
      · exact ordered_canonical value
      · exact ordered_canonicalMembers rest member later

end

mutual

theorem Throughout.canonical {condition : Json → Prop}
    (kept : ∀ document, condition document → condition document.canonical) :
    (document : Json) → document.Throughout condition → document.canonical.Throughout condition
  | .array items, throughout => by
      have whole := kept _ throughout.1
      rw [Json.canonical] at whole ⊢
      exact ⟨whole, ThroughoutItems.canonical kept items throughout.2⟩
  | .object members, throughout => by
      have whole := kept _ throughout.1
      rw [Json.canonical] at whole ⊢
      refine ⟨whole, throughoutMembers_iff.2 fun member listed => ?_⟩
      exact ThroughoutMembers.canonical kept members throughout.2 member
        (Keyed.mem_of_mem_ofList listed)
  | .null, throughout => kept _ throughout
  | .bool _, throughout => kept _ throughout
  | .integer _, throughout => kept _ throughout
  | .double _, throughout => kept _ throughout
  | .string _, throughout => kept _ throughout

theorem ThroughoutItems.canonical {condition : Json → Prop}
    (kept : ∀ document, condition document → condition document.canonical) :
    (items : List Json) → ThroughoutItems condition items →
      ThroughoutItems condition (canonicalItems items)
  | [], _ => trivial
  | item :: rest, throughout =>
      ⟨Throughout.canonical kept item throughout.1,
        ThroughoutItems.canonical kept rest throughout.2⟩

theorem ThroughoutMembers.canonical {condition : Json → Prop}
    (kept : ∀ document, condition document → condition document.canonical) :
    (members : List (String × Json)) → ThroughoutMembers condition members →
      ∀ member ∈ canonicalMembers members, member.2.Throughout condition
  | [], _, _, listed => by cases listed
  | (_, value) :: rest, throughout, member, listed => by
      rcases List.mem_cons.1 listed with rfl | later
      · exact Throughout.canonical kept value throughout.1
      · exact ThroughoutMembers.canonical kept rest throughout.2 member later

end

/-! Numbers. -/

/-- A number is an integer of 64 bits, with or without sign, or a finite double. -/
def Representable : Json → Prop
  | .integer value => Int64.minValue.toInt ≤ value ∧ value < UInt64.size
  | .double value => value.isFinite = true
  | .null | .bool _ | .string _ | .array _ | .object _ => True

theorem representable_canonical {document : Json} (representable : document.Representable) :
    document.canonical.Representable := by
  cases document with
  | integer value => exact representable
  | double value => exact representable
  | _ => trivial

theorem Throughout.representable_canonical {document : Json}
    (representable : document.Throughout Representable) :
    document.canonical.Throughout Representable :=
  @Throughout.canonical Representable (fun _ => Json.representable_canonical) document representable

/-- The whole documents that a reader gives are representable throughout. -/
def Gives (reading : Reading Json) : Prop :=
  ∀ document rest, reading = .ok (document, rest) → document.Throughout Representable

theorem gives_refusal (refusal : Refusal) : Gives (.error refusal) :=
  fun _ _ read => by cases read

theorem gives_ok {document : Json} (representable : document.Throughout Representable)
    (rest : List Char) : Gives (.ok (document, rest)) :=
  fun _ _ read => by cases read; exact representable

theorem number?_representable {negative : Bool} {whole fraction : List Char} {exponent : Int}
    {plain : Bool} {document : Json}
    (read : number? negative whole fraction exponent plain = some document) :
    document.Throughout Representable := by
  unfold number? at read
  simp only [] at read
  split at read
  · rename_i fits
    cases read
    simp only [isInt64, Bool.and_eq_true, decide_eq_true_eq] at fits
    refine ⟨fits.2.1, ?_⟩
    have positive : (0 : Int) < UInt64.size := by decide
    omega
  · split at read
    · rename_i fits
      cases read
      simp only [Bool.and_eq_true, decide_eq_true_eq] at fits
      have lowest : Int64.minValue.toInt ≤ 0 := by decide
      exact ⟨Int.le_trans lowest (Int.natCast_nonneg _), by exact_mod_cast fits.2⟩
    · obtain ⟨number, rounded, rfl⟩ := Option.map_eq_some_iff.1 read
      exact Decimal.isFinite_of_toBinary64? rounded

theorem gives_finishNumber (negative : Bool) (whole fraction text : List Char) (plain : Bool) :
    Gives (finishNumber negative whole fraction text plain) := by
  unfold finishNumber
  split
  · split
    · split
      · exact gives_refusal _
      · split
        · rename_i found
          exact gives_ok (number?_representable found) _
        · exact gives_refusal _
    · split
      · rename_i found
        exact gives_ok (number?_representable found) _
      · exact gives_refusal _
  · split
    · rename_i found
      exact gives_ok (number?_representable found) _
    · exact gives_refusal _

theorem gives_readFraction (negative : Bool) (whole text : List Char) :
    Gives (readFraction negative whole text) := by
  unfold readFraction
  split
  · split
    · exact gives_refusal _
    · exact gives_refusal _
    · exact gives_finishNumber _ _ _ _ _
  · exact gives_finishNumber _ _ _ _ _

theorem gives_readNumber (negative : Bool) (text : List Char) :
    Gives (readNumber negative text) := by
  unfold readNumber
  split
  · exact gives_refusal _
  · split
    · exact gives_readFraction _ _ _
    · split
      · exact gives_refusal _
      · exact gives_readFraction _ _ _
  · split
    · exact gives_readFraction _ _ _
    · exact gives_refusal _

/-! Reading. -/

theorem gives_readWord {value : Json} (representable : value.Throughout Representable)
    (word text : List Char) : Gives (readWord value word text) := by
  induction word generalizing text with
  | nil => exact gives_ok representable text
  | cons expected word inductionHypothesis =>
      cases text with
      | nil => exact gives_refusal _
      | cons character text =>
          unfold readWord
          split
          · exact inductionHypothesis text
          · exact gives_refusal _

mutual

theorem gives_readValue : (fuel depth : Nat) → (text : List Char) →
    Gives (readValue fuel depth text)
  | 0, _, _ => gives_refusal _
  | fuel + 1, depth, text => by
      unfold readValue
      split
      · exact gives_refusal _
      · refine gives_readWord ?_ _ _
        exact trivial
      · refine gives_readWord ?_ _ _
        exact trivial
      · refine gives_readWord ?_ _ _
        exact trivial
      · exact gives_readNumber _ _
      · split
        · exact gives_refusal _
        · refine gives_ok ?_ _
          exact trivial
      · split
        · exact gives_refusal _
        · split
          · refine gives_ok ?_ _
            exact ⟨trivial, trivial⟩
          · exact gives_refusal _
          · exact gives_readItems fuel _ [] _ (fun item listed => by cases listed)
      · split
        · exact gives_refusal _
        · split
          · refine gives_ok ?_ _
            exact ⟨trivial, trivial⟩
          · exact gives_refusal _
          · exact gives_readMembers fuel _ [] _ (fun member listed => by cases listed)
      · split
        · exact gives_readNumber _ _
        · exact gives_refusal _

theorem gives_readItems : (fuel depth : Nat) → (read : List Json) → (text : List Char) →
    (∀ item ∈ read, item.Throughout Representable) → Gives (readItems fuel depth read text)
  | 0, _, _, _, _ => gives_refusal _
  | fuel + 1, depth, read, text, before => by
      unfold readItems
      cases first : readValue fuel depth text with
      | error refusal => exact gives_refusal _
      | ok result =>
          obtain ⟨item, rest⟩ := result
          have grown : ∀ other ∈ item :: read, other.Throughout Representable :=
            List.forall_mem_cons.2 ⟨gives_readValue fuel depth text item rest first, before⟩
          simp only []
          split
          · exact gives_refusal _
          · refine gives_ok ?_ _
            refine ⟨trivial, throughoutItems_iff.2 fun other listed => ?_⟩
            exact grown other (List.mem_reverse.1 listed)
          · split
            · exact gives_refusal _
            · exact gives_refusal _
            · exact gives_readItems fuel depth (item :: read) _ grown
          · exact gives_refusal _

theorem gives_readMembers : (fuel depth : Nat) → (read : List (String × Json)) →
    (text : List Char) → (∀ member ∈ read, member.2.Throughout Representable) →
      Gives (readMembers fuel depth read text)
  | 0, _, _, _, _ => gives_refusal _
  | fuel + 1, depth, read, text, before => by
      unfold readMembers
      cases name : readKey fuel text with
      | error refusal => exact gives_refusal _
      | ok result =>
          obtain ⟨key, behind⟩ := result
          cases first : readValue fuel depth behind with
          | error refusal =>
              simp only [first]
              exact gives_refusal _
          | ok result =>
              obtain ⟨value, rest⟩ := result
              have grown : ∀ other ∈ (key, value) :: read, other.2.Throughout Representable :=
                List.forall_mem_cons.2 ⟨gives_readValue fuel depth behind value rest first, before⟩
              simp only [first]
              split
              · exact gives_refusal _
              · refine gives_ok ?_ _
                refine ⟨trivial, throughoutMembers_iff.2 fun other listed => ?_⟩
                exact grown other (List.mem_reverse.1 listed)
              · split
                · exact gives_refusal _
                · exact gives_refusal _
                · exact gives_readMembers fuel depth ((key, value) :: read) _ grown
              · exact gives_refusal _

end

/-- What a text describes is representable throughout. -/
theorem parse_representable {text : String} {document : Json}
    (parsed : parse text = .ok document) : document.Throughout Representable := by
  unfold parse at parsed
  cases whole : readDocument text.toList with
  | error refusal =>
      rw [whole] at parsed
      cases parsed
  | ok result =>
      rw [whole] at parsed
      cases parsed
      unfold readDocument at whole
      cases front : readValue (2 * text.toList.length + 2) maxDepth text.toList with
      | error refusal =>
          rw [front] at whole
          cases whole
      | ok result =>
          obtain ⟨value, rest⟩ := result
          have representable := gives_readValue _ _ _ value rest front
          simp only [front] at whole
          split at whole
          · cases whole
            exact representable
          · cases whole

end Courier.Json
