import JavaLauncher.Proofs.Text.Repair
import JavaLauncher.Proofs.Text.Splitting
import JavaLauncher.Text.Raw

/-!
# Showing raw texts

A raw text that encodes a text is shown as this text, and every other one as a text that encodes
other bytes (`ofText_shown_iff`). What is shown keeps each character that a single byte makes, at
its place: it is empty only where there is no byte (`shown_eq_empty_iff`), and it ends in such
characters only where the bytes do (`exists_shown_append_iff`).
-/
namespace JavaLauncher.Text.Utf8

/-- A list that goes on beyond the front of another has what comes after that front. -/
theorem mem_of_prefix_append_cons {front rest longer : List UInt8} {byte : UInt8}
    (within : longer <+: front ++ byte :: rest) (beyond : ¬longer <+: front) : byte ∈ longer := by
  obtain shorter | ⟨more, rfl⟩ :=
    List.prefix_or_prefix_of_prefix within (List.prefix_append front (byte :: rest))
  · exact absurd shorter beyond
  · rw [List.prefix_append_right_inj] at within
    cases more with
    | nil =>
      rw [List.append_nil] at beyond
      exact absurd List.prefix_rfl beyond
    | cons first more =>
      obtain ⟨rfl, _⟩ := List.cons_prefix_cons.1 within
      exact List.mem_append_right front List.mem_cons_self

/-- A sequence in error is one also where a byte below 0x80 follows what is behind it. -/
theorem Breaks.append_cons {broken others : List UInt8} (breaks : Breaks broken others)
    {byte : UInt8} (ascii : byte.toNat < 0x80) (rest : List UInt8) :
    Breaks broken (others ++ byte :: rest) := by
  have present : 0 < broken.length := List.length_pos_iff.2 breaks.nonempty
  -- A front that reaches the byte is longer than the encoding of the one character with it.
  have stops : ∀ longer c, longer <+: broken ++ others ++ byte :: rest →
      ¬longer <+: broken ++ others → ¬longer <+: String.utf8EncodeChar c := by
    intro longer c within beyond begun
    have inside := mem_of_prefix_append_cons within beyond
    have alone := eq_singleton_of_mem_encodeChar (begun.subset inside) ascii
    have short : longer.length ≤ 1 := by
      have bound := begun.length_le
      rwa [alone] at bound
    have far := List.prefix_of_prefix_length_le within
      (List.prefix_append (broken ++ others) (byte :: rest))
    refine beyond (far ?_)
    rw [List.length_append]
    omega
  refine ⟨breaks.nonempty, fun c front => ?_, breaks.begun, fun longer front more c begun => ?_⟩
  · rw [← List.append_assoc] at front
    by_cases within : String.utf8EncodeChar c <+: broken ++ others
    · exact breaks.not_character c within
    · exact stops _ c front within List.prefix_rfl
  · rw [← List.append_assoc] at front
    by_cases within : longer <+: broken ++ others
    · exact breaks.longest longer within more c begun
    · exact stops longer c front within begun

/-- What stands before a byte below 0x80 falls into the pieces into which it falls alone. -/
theorem Pieces.append_cons {bytes rest : List UInt8} {front back : List (Option Char)}
    {byte : UInt8} (before : Pieces bytes front) (ascii : byte.toNat < 0x80)
    (after : Pieces (byte :: rest) back) : Pieces (bytes ++ byte :: rest) (front ++ back) := by
  induction before with
  | nothing => exact after
  | character c _ ih =>
    rw [List.append_assoc, List.cons_append]
    exact .character c ih
  | error breaks _ ih =>
    rw [List.append_assoc, List.cons_append]
    exact .error (breaks.append_cons ascii rest) ih

/-- Bytes whose last pieces are characters end in the encodings of these. -/
theorem Pieces.exists_append {bytes : List UInt8} {pieces : List (Option Char)}
    (given : Pieces bytes pieces) {front : List (Option Char)} {characters : List Char}
    (ends : pieces = front ++ characters.map some) :
    ∃ stem, bytes = stem ++ characters.flatMap String.utf8EncodeChar := by
  induction given generalizing front with
  | nothing =>
    obtain ⟨_, none⟩ := List.append_eq_nil_iff.1 ends.symm
    obtain rfl := List.map_eq_nil_iff.1 none
    exact ⟨[], rfl⟩
  | @character c others pieces rest ih =>
    cases front with
    | nil => exact ⟨[], (Pieces.character c rest).eq_flatMap_encodeChar ends⟩
    | cons _ front =>
      obtain ⟨stem, rfl⟩ := ih (List.cons.inj ends).2
      exact ⟨String.utf8EncodeChar c ++ stem, (List.append_assoc _ _ _).symm⟩
  | @error broken others pieces breaks rest ih =>
    cases front with
    | nil => exact ⟨[], (Pieces.error breaks rest).eq_flatMap_encodeChar ends⟩
    | cons _ front =>
      obtain ⟨stem, rfl⟩ := ih (List.cons.inj ends).2
      exact ⟨broken ++ stem, (List.append_assoc _ _ _).symm⟩

/-- A byte below 0x80 is in the encoding of a text where its character is in the text. -/
theorem mem_encode_iff {text : String} {byte : UInt8} (ascii : byte.toNat < 0x80) :
    byte ∈ encode text ↔ Char.ofNat byte.toNat ∈ text.toList := by
  rw [encode, List.mem_flatMap]
  constructor
  · rintro ⟨c, member, inside⟩
    have same : String.utf8EncodeChar c ++ [] =
        String.utf8EncodeChar (Char.ofNat byte.toNat) ++ [] := by
      rw [eq_singleton_of_mem_encodeChar inside ascii, encodeChar_ofNat ascii]
    exact encodeChar_append_inj same ▸ member
  · intro member
    exact ⟨_, member, by rw [encodeChar_ofNat ascii, List.mem_singleton]⟩

end JavaLauncher.Text.Utf8

namespace JavaLauncher.RawText

open Text.Utf8

/-- A raw text encodes a text. -/
def IsText (raw : RawText) : Prop := ∃ text : String, raw = text

/-- A raw text is shown as a text: each character of it as it is, and a replacement character for
each sequence in error. -/
def ShownAs (raw : RawText) (text : String) : Prop := Repairs raw.bytes text

/-- A raw text is shown as one text. -/
theorem shownAs_iff {raw : RawText} {text : String} : ShownAs raw text ↔ raw.shown = text :=
  repairs_iff

/-- A text is shown as it is. -/
theorem shown_ofText (text : String) : (text : RawText).shown = text :=
  repairs_iff.1 (repairs_encode text)

/-- Two texts together have the bytes of each. -/
theorem ofText_append (first second : String) :
    ((first ++ second : String) : RawText) = (first : RawText) ++ (second : RawText) := by
  apply RawText.ext
  simp [ofText, encode]

/-- What a raw text is shown as encodes it where it encodes any text. -/
theorem ofText_shown_iff {raw : RawText} : (raw.shown : RawText) = raw ↔ raw.IsText := by
  constructor
  · exact fun same => ⟨raw.shown, same.symm⟩
  · rintro ⟨text, rfl⟩
    rw [shown_ofText]

/-- What raw texts are shown as encodes them where all of them encode texts. -/
theorem map_ofText_map_shown_iff {raws : List RawText} :
    (raws.map shown).map ofText = raws ↔ ∀ raw ∈ raws, raw.IsText := by
  have each : raws.map (ofText ∘ shown) = raws.map id ↔ ∀ raw ∈ raws, raw.IsText := by
    rw [List.map_inj_left]
    exact forall_congr' fun raw => imp_congr_right fun _ => ofText_shown_iff
  rw [List.map_map]
  rwa [List.map_id] at each

/-- Two texts have the same bytes only where they are the same. -/
theorem ofText_inj {first second : String} : (first : RawText) = second ↔ first = second := by
  constructor
  · intro same
    rw [← shown_ofText first, same, shown_ofText]
  · rintro rfl
    rfl

/-- What a raw text is shown as has its pieces. -/
theorem toList_shown (raw : RawText) :
    raw.shown.toList = (units raw.bytes).map (·.getD replacement) := String.toList_ofList

/-- A raw text is shown as the empty one only where it has no byte. -/
theorem shown_eq_empty_iff {raw : RawText} : raw.shown = "" ↔ raw = "" := by
  constructor
  · intro empty
    have none : units raw.bytes = [] := by
      rw [← String.toList_eq_nil_iff, toList_shown] at empty
      exact List.map_eq_nil_iff.1 empty
    have bytes : raw.bytes = [].flatMap String.utf8EncodeChar :=
      (pieces_iff.2 none).eq_flatMap_encodeChar rfl
    exact RawText.ext bytes
  · rintro rfl
    exact shown_ofText ""

/-- What a raw text is shown as ends in a text that begins with a byte below 0x80 exactly where its
bytes end in those of the text. -/
theorem exists_shown_append_iff {raw : RawText} {suffix : String} {byte : UInt8}
    {rest : List UInt8} (encoded : encode suffix = byte :: rest) (ascii : byte.toNat < 0x80)
    (plain : replacement ∉ suffix.toList) :
    (∃ stem, raw.shown = stem ++ suffix) ↔ ∃ stem : RawText, raw = stem ++ suffix := by
  constructor
  · rintro ⟨stem, ends⟩
    rw [← String.toList_inj, toList_shown, String.toList_append, List.map_eq_append_iff] at ends
    obtain ⟨front, back, split, _, same⟩ := ends
    have valid : back = suffix.toList.map some := by
      rw [← same, List.map_map]
      refine (List.map_id back).symm.trans (List.map_congr_left fun piece member => ?_)
      cases piece with
      | some c => rfl
      | none => exact absurd (same ▸ List.mem_map_of_mem member) plain
    rw [valid] at split
    obtain ⟨stem, bytes⟩ := (pieces_iff.2 rfl).exists_append split
    exact ⟨⟨stem⟩, RawText.ext bytes⟩
  · rintro ⟨stem, rfl⟩
    have before : Pieces stem.bytes (units stem.bytes) := pieces_iff.2 rfl
    have after : Pieces (byte :: rest) (suffix.toList.map some) :=
      encoded ▸ pieces_flatMap_encodeChar suffix.toList
    have whole : units (stem.bytes ++ encode suffix) =
        units stem.bytes ++ suffix.toList.map some := by
      rw [encoded]
      exact pieces_iff.1 (before.append_cons ascii after)
    refine ⟨stem.shown, String.toList_inj.1 ?_⟩
    rw [toList_shown, String.toList_append, toList_shown]
    change (units (stem.bytes ++ encode suffix)).map _ = _
    rw [whole, List.map_append, List.map_map]
    congr 1
    exact List.map_id _

/-- A raw text falls into what two parts fall into that stand on either side of a separator. -/
theorem split_append (separator : UInt8) (front back : RawText) :
    split separator (front ++ ⟨[separator]⟩ ++ back) =
      split separator front ++ split separator back := by
  have parts := List.splitOnP_append_cons (p := fun byte => byte == separator) front.bytes
    back.bytes (beq_self_eq_true separator)
  simp only [split, Text.segments_eq_splitOnP, bytes_append, List.append_assoc,
    List.singleton_append, parts, List.map_append]

/-- A raw text without a separator is one part. -/
theorem split_of_not_mem {separator : UInt8} {raw : RawText} (free : separator ∉ raw.bytes) :
    split separator raw = [raw] := by
  have plain : ∀ byte ∈ raw.bytes, (byte == separator) = false := by
    intro byte member
    exact beq_eq_false_iff_ne.2 fun same => free (same ▸ member)
  rw [split, Text.segments_eq_splitOnP, List.splitOnP_eq_singleton plain, List.map_singleton]

end JavaLauncher.RawText
