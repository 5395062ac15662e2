import JavaLauncher.Arguments.Raw
import JavaLauncher.Proofs.Text.Repair

/-!
# Collecting raw arguments

Each raw argument has one text, its repair, which does not depend on the arguments around it. The
warnings tell of the arguments that are not valid, in their order, at their positions in the whole
list and with the texts that they were given (`mem_warnings_iff`, `pairwise_warnings`). Nothing more
is repaired when the texts are handed over as raw arguments again (`warnings_encode`).
-/
namespace JavaLauncher.RawArguments

open Text

/-- The first warning tells of an argument in front of the one that the second tells of. -/
def Before (first second : Warning) : Prop :=
  ∃ position text later other, first = .repairedArgument position text ∧
    second = .repairedArgument later other ∧ position < later

/-- A raw argument is warned about where it is the encoding of no text. -/
theorem warning?_eq_some_iff {bytes : List UInt8} {position : Nat} {warning : Warning} :
    warning? (bytes, position) = some warning ↔
      (¬∃ text, Utf8.encode text = bytes) ∧
        .repairedArgument position (Utf8.decodeLossy bytes) = warning := by
  simp only [← Utf8.decode?_eq_some_iff, warning?]
  cases Utf8.decode? bytes <;> simp

/-- The warnings tell of exactly the raw arguments that are not valid, each at its position and with
its repair. -/
theorem mem_warnings_iff {arguments : List (List UInt8)} {warning : Warning} :
    warning ∈ warnings arguments ↔ ∃ index bytes text, arguments[index]? = some bytes ∧
      (¬∃ valid, Utf8.encode valid = bytes) ∧ Utf8.Repairs bytes text ∧
        .repairedArgument (index + 1) text = warning := by
  simp only [warnings, List.mem_filterMap, Prod.exists, warning?_eq_some_iff, Utf8.repairs_iff]
  constructor
  · rintro ⟨bytes, position, member, invalid, told⟩
    obtain ⟨first, given⟩ := List.mk_mem_zipIdx_iff_le_and_getElem?_sub.1 member
    refine ⟨position - 1, bytes, _, given, invalid, rfl, ?_⟩
    rw [Nat.sub_add_cancel first, told]
  · rintro ⟨index, bytes, _, given, invalid, rfl, told⟩
    refine ⟨bytes, 1 + index, List.mk_add_mem_zipIdx_iff_getElem?.2 given, invalid, ?_⟩
    rw [Nat.add_comm, told]

/-- The warnings stand in the order of the arguments. -/
theorem pairwise_warnings (arguments : List (List UInt8)) :
    (warnings arguments).Pairwise Before := by
  have positions : (arguments.zipIdx 1).Pairwise (·.2 < ·.2) := by
    rw [← List.pairwise_map (R := (· < ·)), List.zipIdx_map_snd]
    exact List.pairwise_lt_range' 1
  refine List.pairwise_filterMap.2 (positions.imp ?_)
  rintro ⟨bytes, position⟩ ⟨others, later⟩ less first told second toldLater
  obtain ⟨_, rfl⟩ := warning?_eq_some_iff.1 told
  obtain ⟨_, rfl⟩ := warning?_eq_some_iff.1 toldLater
  exact ⟨_, _, _, _, rfl, rfl, less⟩

/-- The texts of raw arguments are their repairs, one for each. -/
theorem forall₂_repairs_iff {arguments : List (List UInt8)} {collected : List String} :
    List.Forall₂ Utf8.Repairs arguments collected ↔ texts arguments = collected :=
  forall₂_iff_map_eq Utf8.decodeLossy fun _ _ => Utf8.repairs_iff

/-- Valid arguments are collected as they are. -/
theorem texts_encode (valid : List String) : texts (valid.map Utf8.encode) = valid :=
  forall₂_repairs_iff.1 <| List.forall₂_map_left_iff.2 <|
    List.forall₂_same.2 fun text _ => Utf8.repairs_encode text

/-- Valid arguments are not warned about. -/
theorem warnings_encode (valid : List String) : warnings (valid.map Utf8.encode) = [] := by
  refine List.eq_nil_iff_forall_not_mem.2 fun warning member => ?_
  obtain ⟨index, bytes, _, given, invalid, _⟩ := mem_warnings_iff.1 member
  rw [List.getElem?_map, Option.map_eq_some_iff] at given
  obtain ⟨text, _, encoded⟩ := given
  exact invalid ⟨text, encoded⟩

/-- A repair is the text of a byte list that is the encoding of one. -/
theorem isEncoding_iff {bytes : List UInt8} {text : String} (repairs : Utf8.Repairs bytes text) :
    (∃ valid, Utf8.encode valid = bytes) ↔ Utf8.encode text = bytes := by
  refine ⟨?_, fun encoded => ⟨text, encoded⟩⟩
  rintro ⟨valid, rfl⟩
  have same : valid = text :=
    (Utf8.repairs_iff.1 (Utf8.repairs_encode valid)).symm.trans (Utf8.repairs_iff.1 repairs)
  rw [same]

/-- Raw arguments and their texts stand in a row, each text being the only repair of the argument at
its place: that argument where it is valid, and otherwise the argument with a replacement character
for each sequence in error, of which no byte below 0x80 is part. There is a warning about each
argument that is not valid, in order, with its position and its text. The texts as raw arguments are
collected as they are, without a warning. -/
theorem collected_exact (arguments : List (List UInt8)) :
    (texts arguments).length = arguments.length ∧
    (∀ collected, List.Forall₂ Utf8.Repairs arguments collected ↔ texts arguments = collected) ∧
    List.Forall₂ (fun bytes text =>
        ((∃ valid, Utf8.encode valid = bytes) ↔ Utf8.encode text = bytes) ∧
          (Utf8.encode text).filter Utf8.isAscii = bytes.filter Utf8.isAscii)
      arguments (texts arguments) ∧
    (∀ warning, warning ∈ warnings arguments ↔ ∃ index bytes text,
      arguments[index]? = some bytes ∧ (¬∃ valid, Utf8.encode valid = bytes) ∧
        Utf8.Repairs bytes text ∧ .repairedArgument (index + 1) text = warning) ∧
    (warnings arguments).Pairwise Before ∧
    texts ((texts arguments).map Utf8.encode) = texts arguments ∧
    warnings ((texts arguments).map Utf8.encode) = [] := by
  have repaired : List.Forall₂ Utf8.Repairs arguments (texts arguments) := forall₂_repairs_iff.2 rfl
  exact ⟨length_texts arguments, fun _ => forall₂_repairs_iff,
    repaired.imp fun _ _ repairs => ⟨isEncoding_iff repairs, repairs.filter_encode⟩,
    fun _ => mem_warnings_iff, pairwise_warnings arguments, texts_encode _, warnings_encode _⟩

end JavaLauncher.RawArguments
