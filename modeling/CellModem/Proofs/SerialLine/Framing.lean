import CellModem.Framing
import CellModem.Proofs.Text.Utf8

/-!
# Written lines come in as they were

How bytes arrive in pieces does not matter to the lines that are cut from them. Lines that were
written with one or more line ends behind each come in one by one, as they were.
-/

namespace CellModem.LineFramer

/-! ## Pieces -/

theorem feed_append (line first second : List UInt8) : feed line (first ++ second)
    = ((feed line first).1 ++ (feed (feed line first).2.pending second).1,
        (feed (feed line first).2.pending second).2) := by
  induction first generalizing line with
  | nil => rfl
  | cons b first ih =>
    rw [List.cons_append, feed, feed]
    split
    · simp only [ih, List.append_assoc]
    · exact ih _

theorem pushAll_flatten (framer : LineFramer) (pieces : List (List UInt8)) :
    (framer.pushAll pieces).1.flatten = (framer.push pieces.flatten).1 ∧
      (framer.pushAll pieces).2 = (framer.push pieces.flatten).2 := by
  induction pieces generalizing framer with
  | nil => exact ⟨rfl, rfl⟩
  | cons piece pieces ih =>
    obtain ⟨hlines, hrest⟩ := ih (framer.push piece).2
    unfold push at *
    rw [List.flatten_cons, feed_append]
    exact ⟨congrArg _ hlines, hrest⟩

/-! ## Line ends -/

theorem feed_open (line bytes rest : List UInt8) (unbroken : ∀ b ∈ bytes, isLineEnd b = false) :
    feed line (bytes ++ rest) = feed (line ++ bytes) rest := by
  induction bytes generalizing line with
  | nil => rw [List.nil_append, List.append_nil]
  | cons b bytes ih =>
    obtain ⟨hb, hbytes⟩ := List.forall_mem_cons.mp unbroken
    rw [List.cons_append, feed, hb, if_neg Bool.false_ne_true, ih _ hbytes, List.append_assoc]
    rfl

theorem lineOf?_nil : lineOf? [] = none := by
  rw [lineOf?, Text.decodeLossy]
  rfl

/-- Nothing comes of line ends in a row. -/
theorem feed_ends (ends rest : List UInt8) (breaks : ∀ b ∈ ends, isLineEnd b = true) :
    feed [] (ends ++ rest) = feed [] rest := by
  induction ends with
  | nil => rfl
  | cons b ends ih =>
    obtain ⟨hb, hends⟩ := List.forall_mem_cons.mp breaks
    rw [List.cons_append, feed, if_pos hb, lineOf?_nil, ih hends]
    rfl

/-! ## Written lines -/

/-- A line that framing leaves as it is. -/
structure Plain (line : String) : Prop where
  nonempty : line ≠ ""
  unbroken : ∀ c ∈ line.toList, c ≠ '\r' ∧ c ≠ '\n'
  first : ∀ c ∈ line.toList.head?, Text.isBlank c = false
  last : ∀ c ∈ line.toList.getLast?, Text.isBlank c = false

-- The instances for lists are named, lest all the characters there are be looked at.
instance (line : String) : Decidable (Plain line) :=
  haveI : Decidable (∀ c ∈ line.toList, c ≠ '\r' ∧ c ≠ '\n') :=
    List.decidableBAll _ _
  haveI : Decidable (∀ c ∈ line.toList.head?, Text.isBlank c = false) :=
    Option.decidableForallMem _
  haveI : Decidable (∀ c ∈ line.toList.getLast?, Text.isBlank c = false) :=
    Option.decidableForallMem _
  decidable_of_iff (line ≠ "" ∧ (∀ c ∈ line.toList, c ≠ '\r' ∧ c ≠ '\n') ∧
      (∀ c ∈ line.toList.head?, Text.isBlank c = false) ∧
      ∀ c ∈ line.toList.getLast?, Text.isBlank c = false)
    ⟨fun ⟨nonempty, unbroken, first, last⟩ => ⟨nonempty, unbroken, first, last⟩,
      fun h => ⟨h.nonempty, h.unbroken, h.first, h.last⟩⟩

theorem dropWhile_of_head {p : Char → Bool} {text : List Char}
    (first : ∀ c ∈ text.head?, p c = false) : text.dropWhile p = text := by
  cases text with
  | nil => rfl
  | cons c text => rw [List.dropWhile_cons_of_neg (by rw [first c rfl]; exact Bool.false_ne_true)]

theorem trim_of_ends {text : List Char} (first : ∀ c ∈ text.head?, Text.isBlank c = false)
    (last : ∀ c ∈ text.getLast?, Text.isBlank c = false) : Text.trim text = text := by
  have hlast : ∀ c ∈ text.reverse.head?, Text.isBlank c = false := by
    rw [List.head?_reverse]
    exact last
  rw [Text.trim, Text.trimStart, dropWhile_of_head first, Text.trimEnd, dropWhile_of_head hlast,
    List.reverse_reverse]

theorem Plain.lineOf? {line : String} (h : Plain line) :
    lineOf? (Text.encode line.toList) = some line := by
  unfold LineFramer.lineOf?
  rw [Text.decodeLossy_encode, trim_of_ends h.first h.last]
  cases hline : line.toList with
  | nil => exact absurd (String.toList_eq_nil_iff.mp hline) h.nonempty
  | cons c text =>
    dsimp only
    rw [← hline, String.ofList_toList]

theorem Plain.not_isLineEnd {line : String} (h : Plain line) :
    ∀ b ∈ Text.encode line.toList, isLineEnd b = false := by
  intro b hb
  have hchar := Text.mem_of_mem_encode hb
  unfold isLineEnd
  rw [Bool.or_eq_false_iff, decide_eq_false_iff_not, decide_eq_false_iff_not]
  constructor
  · rintro rfl
    exact (h.unbroken _ (hchar (by decide))).1 rfl
  · rintro rfl
    exact (h.unbroken _ (hchar (by decide))).2 rfl

/-- The lines in UTF-8, each with one or more line ends behind it. -/
inductive Written : List String → List UInt8 → Prop where
  | nil : Written [] []
  | cons (line : String) (ends : List UInt8) {lines : List String} {bytes : List UInt8}
    (ended : ends ≠ []) (breaks : ∀ b ∈ ends, isLineEnd b = true) (rest : Written lines bytes) :
    Written (line :: lines) (line.toUTF8.data.toList ++ ends ++ bytes)

theorem feed_line {line : String} (plain : Plain line) {ends : List UInt8} (ended : ends ≠ [])
    (breaks : ∀ b ∈ ends, isLineEnd b = true) (rest : List UInt8) :
    feed [] (line.toUTF8.data.toList ++ ends ++ rest)
      = (line :: (feed [] rest).1, (feed [] rest).2) := by
  obtain ⟨b, ends, rfl⟩ := List.exists_cons_of_ne_nil ended
  obtain ⟨hb, hends⟩ := List.forall_mem_cons.mp breaks
  rw [Text.toList_toUTF8, List.append_assoc, feed_open _ _ _ plain.not_isLineEnd,
    List.nil_append, List.cons_append, feed, if_pos hb, plain.lineOf?, feed_ends _ _ hends]
  rfl

theorem Written.feed {lines : List String} {bytes : List UInt8} (h : Written lines bytes)
    (plain : ∀ line ∈ lines, Plain line) : feed [] bytes = (lines, empty) := by
  induction h with
  | nil => rfl
  | cons line ends ended breaks rest ih =>
    obtain ⟨hline, hlines⟩ := List.forall_mem_cons.mp plain
    rw [feed_line hline ended breaks, ih hlines]

/-- However their bytes are cut into pieces. -/
theorem Written.pushAll {lines : List String} {pieces : List (List UInt8)}
    (h : Written lines pieces.flatten) (plain : ∀ line ∈ lines, Plain line) :
    (empty.pushAll pieces).1.flatten = lines := by
  rw [(pushAll_flatten empty pieces).1]
  exact congrArg Prod.fst (h.feed plain)

end CellModem.LineFramer
