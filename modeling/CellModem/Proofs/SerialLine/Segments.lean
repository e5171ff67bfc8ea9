import Mathlib.Data.List.DropRight
import CellModem.Proofs.SerialLine.Framing

/-!
# Lines are the segments of all the bytes

Whatever bytes arrive, and however they are cut into pieces, the lines that come of them are told by
the bytes as a whole: each stretch up to a line end, decoded and trimmed by itself. What is behind
the last line end waits.
-/

namespace CellModem.LineFramer

/-! ## Segments -/

/-- The stretches of the bytes that a line end finishes. -/
def segments (bytes : List UInt8) : List (List UInt8) :=
  (bytes.splitOnP isLineEnd).dropLast

/-- The texts of the segments, without those that are blank. -/
def segmentLines (bytes : List UInt8) : List String :=
  (((segments bytes).map fun segment => Text.trim (Text.decodeLossy segment)).filter
    (· ≠ [])).map String.ofList

/-- The bytes behind the last line end. -/
def remainder (bytes : List UInt8) : List UInt8 :=
  bytes.rtakeWhile fun b => !isLineEnd b

section Ends

variable {line : List UInt8} (unbroken : ∀ b ∈ line, isLineEnd b = false)
include unbroken

theorem unbroken_concat {b : UInt8} (hb : isLineEnd b = false) :
    ∀ b' ∈ line ++ [b], isLineEnd b' = false := by
  intro b' h
  rcases List.mem_append.mp h with hline | hlast
  · exact unbroken b' hline
  · rw [List.mem_singleton.mp hlast, hb]

theorem segments_open : segments line = [] := by
  rw [segments, List.splitOnP_eq_singleton unbroken]
  rfl

theorem segments_end {b : UInt8} (hb : isLineEnd b = true) (input : List UInt8) :
    segments (line ++ b :: input) = line :: segments input := by
  rw [segments, List.splitOnP_append_cons _ _ hb, List.splitOnP_eq_singleton unbroken,
    List.singleton_append, List.dropLast_cons_of_ne_nil (List.splitOnP_ne_nil _ _)]
  rfl

theorem remainder_open : remainder line = line := by
  rw [remainder, List.rtakeWhile_eq_self_iff]
  intro b hb
  rw [unbroken b hb]
  rfl

end Ends

theorem remainder_end {b : UInt8} (hb : isLineEnd b = true) (line input : List UInt8) :
    remainder (line ++ b :: input) = remainder input := by
  rw [remainder, List.rtakeWhile, List.reverse_append, List.reverse_cons, List.append_assoc,
    List.takeWhile_append]
  split
  · next hall =>
    rw [List.singleton_append, List.takeWhile_cons_of_neg (by rw [hb]; exact Bool.false_ne_true),
      List.append_nil, remainder, List.rtakeWhile,
      (List.takeWhile_sublist _).eq_of_length hall]
  · rfl

theorem segments_unbroken {line : List UInt8} (unbroken : ∀ b ∈ line, isLineEnd b = false)
    (input : List UInt8) :
    ∀ segment ∈ segments (line ++ input), ∀ b ∈ segment, isLineEnd b = false := by
  induction input generalizing line with
  | nil =>
    rw [List.append_nil, segments_open unbroken]
    exact List.forall_mem_nil _
  | cons b input ih =>
    cases hb : isLineEnd b with
    | true =>
      rw [segments_end unbroken hb]
      exact List.forall_mem_cons.mpr ⟨unbroken, ih (List.forall_mem_nil _)⟩
    | false =>
      rw [← List.singleton_append, ← List.append_assoc]
      exact ih (unbroken_concat unbroken hb)

/-! ## Lines -/

theorem toList_lineOf? (segment : List UInt8) :
    (lineOf? segment).toList
      = ([Text.trim (Text.decodeLossy segment)].filter (· ≠ [])).map String.ofList := by
  unfold lineOf?
  split
  · next hblank => rw [hblank]; rfl
  · next hblank =>
    rw [List.filter_cons_of_pos (by simpa using hblank)]
    rfl

theorem segmentLines_end {line : List UInt8} (unbroken : ∀ b ∈ line, isLineEnd b = false)
    {b : UInt8} (hb : isLineEnd b = true) (input : List UInt8) :
    segmentLines (line ++ b :: input) = (lineOf? line).toList ++ segmentLines input := by
  rw [segmentLines, segments_end unbroken hb, toList_lineOf?, List.map_cons,
    ← List.singleton_append, List.filter_append, List.map_append]
  rfl

/-- The invariant is that the waiting bytes hold no line end. -/
theorem feed_eq {line : List UInt8} (unbroken : ∀ b ∈ line, isLineEnd b = false)
    (input : List UInt8) :
    feed line input = (segmentLines (line ++ input), ⟨remainder (line ++ input)⟩) := by
  induction input generalizing line with
  | nil => rw [List.append_nil, segmentLines, segments_open unbroken, remainder_open unbroken]; rfl
  | cons b input ih =>
    rw [feed]
    split
    · next hb =>
      rw [ih (List.forall_mem_nil _), segmentLines_end unbroken hb, remainder_end hb]
      rfl
    · next hb =>
      rw [ih (unbroken_concat unbroken (Bool.eq_false_iff.mpr hb)), List.append_assoc]
      rfl

theorem trim_sublist (text : List Char) : (Text.trim text).Sublist text := by
  have hstart : (Text.trimStart text).Sublist text := List.dropWhile_sublist _
  have hend := List.reverse_sublist.mpr
    (List.dropWhile_sublist (l := (Text.trimStart text).reverse) Text.isBlank)
  rw [List.reverse_reverse] at hend
  exact hend.trans hstart

/-- No end of a line is read out of bytes that hold none, whatever else they are. -/
theorem unbroken_of_mem_decodeLossy {segment : List UInt8}
    (unbroken : ∀ b ∈ segment, isLineEnd b = false) {c : Char}
    (h : c ∈ Text.decodeLossy segment) : c ≠ '\r' ∧ c ≠ '\n' := by
  have hbyte := Text.exists_byte_of_mem_decodeLossy h
  constructor
  · rintro rfl
    obtain ⟨b, hb, hcr⟩ := hbyte (by decide)
    have hend : b = 13 := UInt8.toNat_inj.mp hcr
    exact absurd (unbroken b hb) (hend ▸ by decide)
  · rintro rfl
    obtain ⟨b, hb, hlf⟩ := hbyte (by decide)
    have hend : b = 10 := UInt8.toNat_inj.mp hlf
    exact absurd (unbroken b hb) (hend ▸ by decide)

theorem segmentLines_plain {bytes : List UInt8} {line : String} (h : line ∈ segmentLines bytes) :
    line ≠ "" ∧ '\r' ∉ line.toList ∧ '\n' ∉ line.toList := by
  obtain ⟨text, htext, rfl⟩ := List.mem_map.mp h
  obtain ⟨hmem, hfull⟩ := List.mem_filter.mp htext
  obtain ⟨segment, hsegment, rfl⟩ := List.mem_map.mp hmem
  have hunbroken := segments_unbroken (List.forall_mem_nil _) bytes segment hsegment
  have hread {c : Char} (hc : c ∈ Text.trim (Text.decodeLossy segment)) : c ≠ '\r' ∧ c ≠ '\n' :=
    unbroken_of_mem_decodeLossy hunbroken ((trim_sublist _).mem hc)
  rw [String.toList_ofList]
  refine ⟨?_, fun hc => (hread hc).1 rfl, fun hc => (hread hc).2 rfl⟩
  rw [Ne, ← String.toList_eq_nil_iff, String.toList_ofList]
  exact of_decide_eq_true hfull

/-- All that comes in, in whatever pieces, gives the lines of its segments, and what is behind the
last line end is kept. A line is neither empty nor does it hold a line end. Two pieces one after the
other give what they give together, whatever has been kept before. -/
theorem pushAll_segments (pieces : List (List UInt8)) :
    (empty.pushAll pieces).1.flatten = segmentLines pieces.flatten ∧
      (empty.pushAll pieces).2.pending = remainder pieces.flatten ∧
      (∀ line ∈ (empty.pushAll pieces).1.flatten,
        line ≠ "" ∧ '\r' ∉ line.toList ∧ '\n' ∉ line.toList) ∧
      ∀ (framer : LineFramer) (first second : List UInt8),
        framer.push (first ++ second)
          = ((framer.push first).1 ++ ((framer.push first).2.push second).1,
            ((framer.push first).2.push second).2) := by
  have hfeed := feed_eq (List.forall_mem_nil _) pieces.flatten
  obtain ⟨hlines, hrest⟩ := pushAll_flatten empty pieces
  have hsegments : (empty.pushAll pieces).1.flatten = segmentLines pieces.flatten :=
    hlines.trans (congrArg Prod.fst hfeed)
  refine ⟨hsegments, ?_, ?_, fun framer => feed_append framer.pending⟩
  · rw [hrest, push, show empty.pending = [] from rfl, hfeed]
    rfl
  · intro line hline
    exact segmentLines_plain (hsegments ▸ hline)

/-- The pieces cut a character, the two ends of a line and the bytes of no character. -/
theorem pushAll_segments_cut :
    (empty.pushAll [[0x20, 0xC3], [0xA9, 0x0D], [], [0x0A, 0xE2, 0x82], [0x0D, 0x20]]).1.flatten
        = ["é", "\uFFFD"] ∧
      (empty.pushAll [[0x20, 0xC3], [0xA9, 0x0D], [], [0x0A, 0xE2, 0x82], [0x0D, 0x20]]).2.pending
        = [0x20] ∧
      ∀ line ∈ ["é", "\uFFFD"], line ≠ "" ∧ '\r' ∉ line.toList ∧ '\n' ∉ line.toList := by
  have h := pushAll_segments [[0x20, 0xC3], [0xA9, 0x0D], [], [0x0A, 0xE2, 0x82], [0x0D, 0x20]]
  have hlines : segmentLines [0x20, 0xC3, 0xA9, 0x0D, 0x0A, 0xE2, 0x82, 0x0D, 0x20]
      = ["é", "\uFFFD"] := by decide +kernel
  have hbytes : [[0x20, 0xC3], [0xA9, 0x0D], [], [0x0A, 0xE2, 0x82], [0x0D, 0x20]].flatten
      = [0x20, 0xC3, 0xA9, 0x0D, 0x0A, 0xE2, 0x82, 0x0D, (0x20 : UInt8)] := rfl
  rw [hbytes, hlines] at h
  obtain ⟨hresult, hrest, hplain, -⟩ := h
  exact ⟨hresult, hrest, hresult ▸ hplain⟩

end CellModem.LineFramer
