import Metering.Influx.Writer
import Metering.Proofs.Text.Edge

/-!
# Excerpts of answers

What the error of a refused write keeps of the answer (`kept_of_refused`): all of a short text, and
of any other the longest prefix of whole characters with at most 512 bytes.
-/

namespace Metering.Influx.Writer

open Metering.Text

/-- A write that is answered without success fails, and the error keeps the text of the answer,
clipped to 512 bytes. -/
theorem kept_of_refused {σ : Type} (exchange : Request → σ → Reply × σ) (w : Writer)
    (lines : List String) (ready : Bool) (s : σ) {status : UInt16} {body : List UInt8}
    (answered : (exchange (w.writeRequest lines) (w.prepareDatabase exchange ready s).2).1 =
      .answered status body)
    (failure : isSuccess status = false) :
    ∃ kept : String, (w.write exchange lines ready s).1 = .error (.refused status kept) ∧
      Clips 512 (ofUtf8Lossy body) kept.toList := by
  have report : (w.write exchange lines ready s).1 = .error (.refused status (excerpt body)) := by
    have meaning : (w.write exchange lines ready s).1 =
        outcome (exchange (w.writeRequest lines) (w.prepareDatabase exchange ready s).2).1 := rfl
    rw [meaning, answered, outcome, failure]
    rfl
  refine ⟨excerpt body, report, ?_⟩
  rw [excerpt, String.toList_ofList]
  exact clips_clip bodyLimit (ofUtf8Lossy body)

/-- A character of four bytes that begins at the 510th byte is dropped. -/
theorem kept_of_wide_character :
    let letters := List.replicate 509 'a'
    let text := letters ++ ['😀'] ++ "b".toList
    let url : Url := ⟨"http".toList, [], [], some (.address4 0x0A000001), none, .rooted [[]], none, none⟩
    let w : Writer := ⟨url, url, "d", none, none, false⟩
    let exchange (_ : Request) (_ : Unit) : Reply × Unit := (.answered 500 (utf8 text), ())
    isSuccess 500 = false ∧ ∃ kept : String,
      (w.write exchange ["a v=1"] true ()).1 = .error (.refused 500 kept) ∧
        kept.toList = letters := by
  intro letters text url w exchange
  have failure : isSuccess 500 = false := rfl
  obtain ⟨kept, report, clips⟩ := kept_of_refused exchange w ["a v=1"] true () rfl failure
  rw [ofUtf8Lossy_utf8] at clips
  have few : (utf8 letters).length ≤ 512 := by decide +kernel
  have many : 512 < (utf8 (letters ++ ['😀'])).length := by decide +kernel
  have inside : letters <+: kept.toList := clips.longest ⟨_, (List.append_assoc ..).symm⟩ few
  refine ⟨failure, kept, report, ?_⟩
  obtain shorter | ⟨rest, longer⟩ :=
    List.prefix_or_prefix_of_prefix clips.isPrefix (List.prefix_append _ "b".toList)
  · obtain same | within := List.prefix_concat_iff.1 shorter
    · exact absurd (same ▸ clips.fits) (Nat.not_le.2 many)
    · exact within.eq_of_length_le inside.length_le
  · have fits := clips.fits
    rw [← longer, utf8_append, List.length_append] at fits
    omega

end Metering.Influx.Writer
