import Courier.Proofs.Bundle.Reading
import Courier.Proofs.Bundle.Writing

namespace Courier

/-! A bundle that is written into a parcel is read back from there. -/

theorem Bundle.takes_write {bundle : Bundle} (shallow : bundle.depth ≤ Limits.bundleDepth)
    (bounded : bundle.write.bytes.length < 2 ^ 31) :
    Decoder.bundle.Takes bundle.write.bytes bundle :=
  Decoder.takes_bundleWithin (Nat.zero_add _) (Bundle.canonicalBundle_write shallow bounded).bundleForm

namespace Parcel

variable {parcel : Parcel} {draft : Draft}

theorem write_finished (finished : draft.fault = none) :
    parcel.write draft = (.ok (), parcel.append draft.bytes) := by
  simp only [write, finished]

theorem write_stopped {fault : Fault} (stopped : draft.fault = some fault) :
    parcel.write draft = (.error fault, parcel.append draft.bytes) := by
  simp only [write, stopped]

theorem write_eq_ok {after : Parcel} :
    parcel.write draft = (.ok (), after) ↔ draft.fault = none ∧ parcel.append draft.bytes = after := by
  unfold write
  cases draft.fault <;> simp

theorem size_append (parcel : Parcel) (bytes : List UInt8) :
    (parcel.append bytes).size = parcel.size + bytes.length :=
  List.length_append

/-- What was appended to a parcel is unread where the parcel ended. -/
theorem unread_appended (parcel : Parcel) (form suffix : List UInt8) :
    (((parcel.append form).append suffix).seek parcel.size).bytes.drop
        (((parcel.append form).append suffix).seek parcel.size).position = form ++ suffix := by
  have grown := size_append parcel form
  have whole := size_append (parcel.append form) suffix
  have start : min parcel.size ((parcel.append form).append suffix).size = parcel.size := by omega
  simp only [seek, start]
  simp [append, size]

/-- A decoder that takes what was appended to a parcel reads it there. -/
theorem read_appended {α : Type} {decoder : Decoder α} {form : List UInt8} {value : α}
    (taken : decoder.Takes form value) (parcel : Parcel) (suffix : List UInt8) :
    (((parcel.append form).append suffix).seek parcel.size).read decoder =
      (.ok value, ((parcel.append form).append suffix).seek (parcel.append form).size) := by
  have grown := size_append parcel form
  have whole := size_append (parcel.append form) suffix
  have start : min parcel.size ((parcel.append form).append suffix).size = parcel.size := by omega
  have stop : min (parcel.append form).size ((parcel.append form).append suffix).size =
      parcel.size + form.length := by omega
  rw [read_taken taken (unread_appended parcel form suffix)]
  simp only [seek, start, stop]

/-- Writing a bundle succeeds unless bundles nest too deep in it.  Then, if no
count wraps, the bundle is read back from between whatever stands before it and
behind it. -/
theorem write_read_bundle (bundle : Bundle) (parcel : Parcel) :
    (parcel.write bundle.write).1 =
        (if bundle.depth ≤ Limits.bundleDepth then .ok ()
          else .error (.unencodable .nestedTooDeep)) ∧
    ((parcel.write bundle.write).1 = .ok () → bundle.write.bytes.length < 2 ^ 31 →
      ∀ suffix : List UInt8,
        (((parcel.write bundle.write).2.append suffix).seek parcel.size).read Decoder.bundle =
          (.ok bundle,
            ((parcel.write bundle.write).2.append suffix).seek
              (parcel.write bundle.write).2.size)) := by
  have fault := bundle.fault_write
  by_cases shallow : bundle.depth ≤ Limits.bundleDepth
  · rw [if_pos shallow] at fault
    rw [write_finished fault, if_pos shallow]
    refine ⟨rfl, fun _ bounded suffix => ?_⟩
    exact read_appended (Bundle.takes_write shallow bounded) parcel suffix
  · rw [if_neg shallow] at fault
    rw [write_stopped fault, if_neg shallow]
    exact ⟨rfl, fun finished => nomatch finished⟩

/-- A NaN with a payload beside a nested bundle, under keys of one and two bytes. -/
def nestedSample : Bundle where
  entries :=
    [("a", .double ⟨0x7FF8000000000001⟩),
      ("é", .bundle [("c", .bytes [1]), ("d", .strings ["", "x"])])]
  ordered := ⟨by decide, trivial, ⟨by decide, trivial, trivial, trivial⟩, trivial⟩

theorem write_read_bundle_nested :
    ((ofBytes [7]).write nestedSample.write).1 = .ok () ∧
      nestedSample.write.bytes.length < 2 ^ 31 ∧
      ((((ofBytes [7]).write nestedSample.write).2.append [9]).seek 1).read Decoder.bundle =
        (.ok nestedSample, (((ofBytes [7]).write nestedSample.write).2.append [9]).seek 109) := by
  have finished : ((ofBytes [7]).write nestedSample.write).1 = .ok () := rfl
  have bounded : nestedSample.write.bytes.length < 2 ^ 31 := by decide +kernel
  exact ⟨finished, bounded, (write_read_bundle nestedSample (ofBytes [7])).2 finished bounded [9]⟩

end Parcel

end Courier
