import Courier.Proofs.Bundle.Reencoding

namespace Courier

/-! Bundles are read off their own bytes.

What a decoder takes decides its result, so what stands before a form or behind
it does not matter, and no form begins with another one.  Hence bytes that stop
short of the end of a bundle are no bundle. -/

namespace Decoder

variable {α : Type}

/-- Of two forms that a decoder takes, neither goes on behind the other. -/
theorem Takes.prefix_free {decoder : Decoder α} {form more : List UInt8} {value other : α}
    (taken : decoder.Takes form value) (longer : decoder.Takes (form ++ more) other) :
    more = [] ∧ value = other := by
  have short : (⟨0, form ++ more⟩ : Cursor).Consumes form ⟨form.length, more⟩ :=
    ⟨rfl, (Nat.zero_add _).symm⟩
  have whole : (⟨0, form ++ more⟩ : Cursor).Consumes (form ++ more) ⟨(form ++ more).length, []⟩ :=
    ⟨(List.append_nil _).symm, (Nat.zero_add _).symm⟩
  have same := (taken short).symm.trans (longer whole)
  obtain ⟨sameValue, sameCursor⟩ := EStateM.Result.ok.inj same
  exact ⟨congrArg Cursor.unread sameCursor, sameValue⟩

/-- A decoder that takes nothing but forms reads none off a part of one. -/
theorem Sound.ne_ok_of_cut {decoder : Decoder α} {Form : List UInt8 → α → Prop}
    (sound : decoder.Sound Form) (takes : ∀ form value, Form form value → decoder.Takes form value)
    {form short : List UInt8} {value : α} (spelled : Form form value) (front : short <+: form)
    (cut : short ≠ form) (offset : Nat) (read : α) (after : Cursor) :
    decoder ⟨offset, short⟩ ≠ .ok read after := by
  intro decoded
  obtain ⟨first, consumed, begun⟩ := sound decoded
  obtain ⟨rest, whole⟩ := front
  have unread : short = first ++ after.unread := consumed.1
  have shape : form = first ++ (after.unread ++ rest) := by
    rw [← whole, unread, List.append_assoc]
  have longer : decoder.Takes (first ++ (after.unread ++ rest)) value :=
    shape ▸ takes form value spelled
  have nothing := ((takes first read begun).prefix_free longer).1
  have none : rest = [] := (List.append_eq_nil_iff.1 nothing).2
  apply cut
  rw [← whole, none, List.append_nil]

end Decoder

namespace Parcel

/-- What is cut off before the end of a bundle is no bundle. -/
theorem read_truncated {form short : List UInt8} {bundle : Bundle}
    (spelled : BundleForm 0 form bundle) (front : short <+: form) (cut : short ≠ form) :
    ∃ defect reached,
      (ofBytes short).read Decoder.bundle = (.error (.malformed defect), reached) := by
  have whole : 0 + (Limits.bundleDepth + 1) = Limits.bundleDepth + 1 := Nat.zero_add _
  cases decoded : Decoder.bundle (ofBytes short).cursor with
  | ok read after =>
      have refused := (Decoder.sound_bundleWithin whole).ne_ok_of_cut
        (fun _ _ => Decoder.takes_bundleWithin whole) spelled front cut
      exact absurd decoded (refused 0 read after)
  | error fault after =>
      obtain ⟨defect, rfl⟩ := Decoder.blames_bundleWithin _ decoded
      exact ⟨defect, _, read_eq_error.2 ⟨after, decoded, rfl⟩⟩

/-- Wherever the bytes of a bundle that was read stand at the cursor, the same
bundle is read and exactly these bytes are consumed, and any part of them that
leaves some out at the end is malformed.  So is any such part of what is written for
a bundle, where all of that is read again as one bundle.  It is if it is shorter than
`2 ^ 31` bytes: the words that announce its lengths wrap beyond that. -/
theorem read_bundle_local :
    (∀ (parcel after : Parcel) (bundle : Bundle),
      parcel.read Decoder.bundle = (.ok bundle, after) →
        (∀ (other : Parcel) (rest : List UInt8),
          other.bytes.drop other.position = parcel.consumed after ++ rest →
            other.read Decoder.bundle =
              (.ok bundle, { other with
                position := other.position + (parcel.consumed after).length })) ∧
        ∀ short, short <+: parcel.consumed after → short ≠ parcel.consumed after →
          ∃ defect reached,
            (ofBytes short).read Decoder.bundle = (.error (.malformed defect), reached)) ∧
    ∀ bundle : Bundle, bundle.write.fault = none →
      ((∃ read after, (ofBytes bundle.write.bytes).read Decoder.bundle = (.ok read, after) ∧
          after.available = 0) →
        ∀ short, short <+: bundle.write.bytes → short ≠ bundle.write.bytes →
          ∃ defect reached,
            (ofBytes short).read Decoder.bundle = (.error (.malformed defect), reached)) ∧
      (bundle.write.bytes.length < 2 ^ 31 →
        ∃ after, (ofBytes bundle.write.bytes).read Decoder.bundle = (.ok bundle, after) ∧
          after.available = 0) := by
  have whole : 0 + (Limits.bundleDepth + 1) = Limits.bundleDepth + 1 := Nat.zero_add _
  have forms {parcel after : Parcel} {bundle : Bundle} :=
    @read_eq_ok_iff_form _ _ _ (Decoder.sound_bundleWithin whole)
      (fun _ _ => Decoder.takes_bundleWithin whole) parcel after bundle
  refine ⟨?_, fun bundle finished => ⟨?_, fun bounded => ?_⟩⟩
  · intro parcel after bundle read
    obtain ⟨form, rest, unread, spelled, rfl⟩ := forms.1 read
    rw [consumed_eq unread]
    constructor
    · intro other behind found
      exact read_taken (Decoder.takes_bundleWithin whole spelled) found
    · intro short front cut
      exact read_truncated spelled front cut
  · rintro ⟨read, after, decoded, nothing⟩ short front cut
    obtain ⟨form, rest, unread, spelled, rfl⟩ := forms.1 decoded
    have all : bundle.write.bytes = form ++ rest := unread
    have none : rest = [] := by
      change bundle.write.bytes.length - (0 + form.length) = 0 at nothing
      rw [all, List.length_append] at nothing
      exact List.eq_nil_of_length_eq_zero (by omega)
    rw [all, none, List.append_nil] at front cut
    exact read_truncated spelled front cut
  · have shallow := Bundle.depth_le_of_finished finished
    have spelled := (Bundle.canonicalBundle_write shallow bounded).bundleForm
    refine ⟨_, read_taken (Decoder.takes_bundleWithin whole spelled) (List.append_nil _).symm, ?_⟩
    change bundle.write.bytes.length - (0 + bundle.write.bytes.length) = 0
    omega

theorem read_bundle_local_loose :
    read ⟨[1] ++ (looseForm ++ [2]), 1⟩ Decoder.bundle =
        (.ok looseBundle, ⟨[1] ++ (looseForm ++ [2]), 45⟩) ∧
      read ⟨[6, 6, 6] ++ looseForm, 3⟩ Decoder.bundle =
        (.ok looseBundle, ⟨[6, 6, 6] ++ looseForm, 47⟩) ∧
      (∃ defect reached, (ofBytes looseForm.dropLast).read Decoder.bundle =
        (.error (.malformed defect), reached)) ∧
      looseBundle.write.fault = none ∧ looseBundle.write.bytes.length < 2 ^ 31 ∧
      ∃ defect reached, (ofBytes looseBundle.write.bytes.dropLast).read Decoder.bundle =
        (.error (.malformed defect), reached) := by
  have found : read ⟨[1] ++ (looseForm ++ [2]), 1⟩ Decoder.bundle =
      (.ok looseBundle, ⟨[1] ++ (looseForm ++ [2]), 45⟩) := rfl
  have finished : looseBundle.write.fault = none := rfl
  have bounded : looseBundle.write.bytes.length < 2 ^ 31 := by decide +kernel
  obtain ⟨again, truncated⟩ := read_bundle_local.1 _ _ _ found
  obtain ⟨written, readBack⟩ := read_bundle_local.2 looseBundle finished
  have moved := again ⟨[6, 6, 6] ++ looseForm, 3⟩ [] (by decide +kernel)
  refine ⟨found, moved, ?_, finished, bounded, ?_⟩
  · exact truncated _ (List.dropLast_prefix _) (by decide +kernel)
  · exact written ⟨_, readBack bounded⟩ _ (List.dropLast_prefix _) (by decide +kernel)

end Parcel

end Courier
