import JavaLauncher.Proofs.Lists
import JavaLauncher.Proofs.Text.Encoding

/-!
# Repaired texts

Every byte list falls into pieces in one way: the encodings of characters, and sequences in error,
which are as long as they can be while more bytes could still make a character of them. The reader
finds these pieces (`pieces_iff`), and a text with the replacement character for each sequence in
error is the repair of the byte list (`Repairs`).

What is in error is never swallowed further than it must be: the bytes below 0x80 are all kept, in
their order (`Repairs.filter_encode`). A text is repaired only where it was no encoding
(`decode?_eq_some_iff`), and the bytes of a repaired text need no repair (`repairs_encode`).
-/
namespace JavaLauncher.Text.Utf8

/-- At the front of a byte list, before some others, stands a sequence in error. No character stands
there, and the sequence is the longest one by which a character could begin, or a single byte. -/
structure Breaks (broken others : List UInt8) : Prop where
  /-- There is a byte. -/
  nonempty : broken ≠ []
  /-- No character stands there. -/
  not_character : ∀ c, ¬String.utf8EncodeChar c <+: broken ++ others
  /-- A character could begin with the sequence, if it is more than a byte. -/
  begun : broken.length = 1 ∨ ∃ c, broken <+: String.utf8EncodeChar c
  /-- No character could begin with more of the list. -/
  longest : ∀ longer, longer <+: broken ++ others → broken.length < longer.length →
    ∀ c, ¬longer <+: String.utf8EncodeChar c

/-- The pieces of a byte list from its front to its end; a sequence in error is `none`. -/
inductive Pieces : List UInt8 → List (Option Char) → Prop where
  /-- There are no bytes. -/
  | nothing : Pieces [] []
  /-- The encoding of a character. -/
  | character (c : Char) {others : List UInt8} {pieces : List (Option Char)} :
    Pieces others pieces → Pieces (String.utf8EncodeChar c ++ others) (some c :: pieces)
  /-- A sequence in error. -/
  | error {broken others : List UInt8} {pieces : List (Option Char)} :
    Breaks broken others → Pieces others pieces → Pieces (broken ++ others) (none :: pieces)

/-! ### There is one way to fall into pieces -/

/-- Two byte lists that begin with encodings begin with the same one where they are equal. -/
theorem encodeChar_append_inj {c d : Char} {others rest : List UInt8}
    (same : String.utf8EncodeChar c ++ others = String.utf8EncodeChar d ++ rest) : c = d := by
  have first := @ByteArray.utf8DecodeChar?_utf8EncodeChar_append others.toByteArray c
  have second := @ByteArray.utf8DecodeChar?_utf8EncodeChar_append rest.toByteArray d
  rw [← List.toByteArray_append, same, List.toByteArray_append, second] at first
  exact (Option.some.inj first).symm

/-- A sequence in error is no longer than any other at the same place. -/
theorem Breaks.length_le {broken others longer : List UInt8} (breaks : Breaks broken others)
    {rest : List UInt8} (again : Breaks longer rest) (same : broken ++ others = longer ++ rest) :
    longer.length ≤ broken.length := by
  refine Nat.le_of_not_lt fun less => ?_
  have two : longer.length ≠ 1 := by
    have present : 0 < broken.length := List.length_pos_iff.2 breaks.nonempty
    omega
  obtain ⟨c, front⟩ := again.begun.resolve_left two
  exact breaks.longest longer ⟨rest, same.symm⟩ less c front

/-- A byte list falls into pieces in one way only. -/
theorem Pieces.unique {bytes : List UInt8} {first second : List (Option Char)}
    (one : Pieces bytes first) (other : Pieces bytes second) : first = second := by
  induction one generalizing second with
  | nothing =>
    generalize none : ([] : List UInt8) = bytes at other
    cases other with
    | nothing => rfl
    | character c _ =>
      exact absurd (List.append_eq_nil_iff.1 none.symm).1 String.utf8EncodeChar_ne_nil
    | error breaks _ => exact absurd (List.append_eq_nil_iff.1 none.symm).1 breaks.nonempty
  | @character c others pieces _ ih =>
    generalize same : String.utf8EncodeChar c ++ others = bytes at other
    cases other with
    | nothing => exact absurd (List.append_eq_nil_iff.1 same).1 String.utf8EncodeChar_ne_nil
    | character d rest =>
      obtain rfl := encodeChar_append_inj same
      obtain rfl := List.append_cancel_left same
      rw [ih rest]
    | error breaks _ => exact absurd ⟨others, same⟩ (breaks.not_character c)
  | @error broken others pieces breaks _ ih =>
    generalize same : broken ++ others = bytes at other
    cases other with
    | nothing => exact absurd (List.append_eq_nil_iff.1 same).1 breaks.nonempty
    | character d _ => exact absurd ⟨_, same.symm⟩ (breaks.not_character d)
    | error again rest =>
      have length : broken.length = _ :=
        Nat.le_antisymm (again.length_le breaks same.symm) (breaks.length_le again same)
      obtain ⟨rfl, rfl⟩ := List.append_inj same length
      rw [ih rest]

/-! ### The reader finds the pieces -/

/-- Where the next byte is out of bounds or missing, the bytes that led to a state are a sequence in
error. -/
theorem Reached.breaks {read others : List UInt8} {pending : Pending}
    (reached : Reached read pending) (stuck : ∀ byte ∈ others.head?, ¬pending.Takes byte) :
    Breaks read others := by
  have stops : ∀ bytes more c, bytes <+: others → bytes ≠ [] →
      String.utf8EncodeChar c ≠ read ++ (bytes ++ more) := by
    intro bytes more c front present encoded
    obtain ⟨byte, rest, rfl⟩ := List.exists_cons_of_ne_nil present
    obtain ⟨later, rfl⟩ := front
    exact stuck byte rfl (reached.encodeChar_eq_append_iff.1 encoded).takes
  refine ⟨reached.ne_nil, fun c front => ?_, .inr reached.exists_encodeChar,
    fun longer front more c begun => ?_⟩
  · obtain shorter | ⟨bytes, whole⟩ :=
      List.prefix_or_prefix_of_prefix front (List.prefix_append read others)
    · exact reached.not_prefix shorter
    · rw [← whole, List.prefix_append_right_inj] at front
      refine stops bytes [] c front ?_ (by rw [List.append_nil, whole])
      rintro rfl
      exact reached.not_prefix (c := c) (by simp [← whole])
  · obtain ⟨bytes, rfl⟩ :=
      List.prefix_of_prefix_length_le (List.prefix_append read others) front (Nat.le_of_lt more)
    obtain ⟨later, whole⟩ := begun
    rw [List.prefix_append_right_inj] at front
    refine stops bytes later c front ?_ (by rw [← whole, List.append_assoc])
    rintro rfl
    simp at more

/-- A byte by which no character begins is a sequence in error. -/
theorem breaks_of_stray {byte : UInt8} (stray : start byte = ([none], none))
    (others : List UInt8) : Breaks [byte] others := by
  have stops : ∀ bytes c, ¬byte :: bytes <+: String.utf8EncodeChar c := by
    rintro bytes c ⟨later, encoded⟩
    obtain ⟨started, _⟩ | ⟨_, started, _⟩ := encodeChar_eq_cons_iff.1 encoded.symm
    · simp [stray] at started
    · simp [stray] at started
  refine ⟨List.cons_ne_nil _ _, fun c front => ?_, .inl rfl, fun longer front more c => ?_⟩
  · obtain ⟨first, bytes, encoded⟩ := List.exists_cons_of_ne_nil (@String.utf8EncodeChar_ne_nil c)
    rw [encoded] at front
    obtain ⟨rfl, _⟩ := List.cons_prefix_cons.1 front
    exact stops bytes c (encoded ▸ List.prefix_rfl)
  · have present : longer ≠ [] := List.length_pos_iff.1 (Nat.zero_lt_of_lt more)
    obtain ⟨first, bytes, rfl⟩ := List.exists_cons_of_ne_nil present
    obtain ⟨rfl, _⟩ := List.cons_prefix_cons.1 front
    exact stops bytes c

/-- From between characters the reader finds the pieces of what follows, and from inside a character
those of the bytes that led there and of what follows. -/
theorem pieces_unitsFrom (bytes : List UInt8) :
    Pieces bytes (unitsFrom none bytes) ∧ ∀ read pending, Reached read pending →
      Pieces (read ++ bytes) (unitsFrom (some pending) bytes) := by
  induction bytes with
  | nil =>
    refine ⟨.nothing, fun read pending reached => ?_⟩
    exact .error (reached.breaks nofun) .nothing
  | cons byte bytes ih =>
    obtain ⟨between, inside⟩ := ih
    have first : Pieces (byte :: bytes) (unitsFrom none (byte :: bytes)) := by
      rw [unitsFrom]
      obtain ⟨c, started⟩ | started | ⟨pending, started⟩ := start_cases byte
      · have encoded : String.utf8EncodeChar c = [byte] :=
          encodeChar_eq_cons_iff.2 (.inl ⟨started, rfl⟩)
        rw [started, ← List.singleton_append, ← encoded]
        exact .character c between
      · rw [started, ← List.singleton_append]
        exact .error (breaks_of_stray started bytes) between
      · rw [started]
        exact inside [byte] pending (.first started)
    refine ⟨first, fun read pending reached => ?_⟩
    rw [unitsFrom]
    by_cases takes : pending.Takes byte
    · obtain ⟨c, stepped⟩ | ⟨after, stepped⟩ := step_cases takes
      · have encoded : String.utf8EncodeChar c = read ++ [byte] :=
          reached.encodeChar_eq_append_iff.2 (.last stepped)
        rw [stepped, List.append_cons, ← encoded]
        exact .character c between
      · rw [stepped, List.append_cons]
        exact inside _ _ (.next reached stepped)
    · have stuck : ∀ next ∈ (byte :: bytes).head?, ¬pending.Takes next := by
        rintro next ⟨⟩
        exact takes
      rw [step_outside takes]
      rw [unitsFrom] at first
      exact .error (reached.breaks stuck) first

/-- The reader finds the pieces, and there are no others. -/
theorem pieces_iff {bytes : List UInt8} {pieces : List (Option Char)} :
    Pieces bytes pieces ↔ units bytes = pieces := by
  obtain ⟨found, _⟩ := pieces_unitsFrom bytes
  constructor
  · exact found.unique
  · rintro rfl
    exact found

/-! ### Texts -/

/-- The bytes of a text fall into its characters. -/
theorem pieces_flatMap_encodeChar (characters : List Char) :
    Pieces (characters.flatMap String.utf8EncodeChar) (characters.map some) := by
  induction characters with
  | nil => exact .nothing
  | cons c characters ih => exact .character c ih

/-- What falls into characters alone is their encodings. -/
theorem Pieces.eq_flatMap_encodeChar {bytes : List UInt8} {pieces : List (Option Char)}
    (given : Pieces bytes pieces) {characters : List Char} (valid : pieces = characters.map some) :
    bytes = characters.flatMap String.utf8EncodeChar := by
  induction given generalizing characters with
  | nothing =>
    obtain rfl := List.map_eq_nil_iff.1 valid.symm
    rfl
  | character c _ ih =>
    obtain ⟨first, later, rfl, same, rest⟩ := List.map_eq_cons_iff.1 valid.symm
    obtain rfl := Option.some.inj same
    rw [ih rest.symm, List.flatMap_cons]
  | error _ _ _ =>
    obtain ⟨first, later, _, same, _⟩ := List.map_eq_cons_iff.1 valid.symm
    cases same

/-- The reader finds the characters of a text in its bytes. -/
theorem units_encode (text : String) : units (encode text) = text.toList.map some :=
  pieces_iff.1 (pieces_flatMap_encodeChar text.toList)

/-- Pieces make a text where all of them are characters. -/
theorem mapM_id_eq_some_iff {pieces : List (Option Char)} {characters : List Char} :
    pieces.mapM id = some characters ↔ pieces = characters.map some := by
  rw [mapM_eq_some_iff, ← List.forall₂_eq_eq_eq, List.forall₂_map_right_iff]
  rfl

/-- A byte list has a text exactly where it is the encoding of that text. -/
theorem decode?_eq_some_iff {bytes : List UInt8} {text : String} :
    decode? bytes = some text ↔ encode text = bytes := by
  simp only [decode?, Option.map_eq_some_iff, mapM_id_eq_some_iff]
  constructor
  · rintro ⟨characters, valid, rfl⟩
    rw [encode, String.toList_ofList]
    exact (pieces_iff.2 valid |>.eq_flatMap_encodeChar rfl).symm
  · rintro rfl
    exact ⟨text.toList, units_encode text, String.ofList_toList⟩

/-- A text is the repair of a byte list: each character of the list as it is, and a replacement
character for each sequence in error. -/
def Repairs (bytes : List UInt8) (text : String) : Prop :=
  ∃ pieces, Pieces bytes pieces ∧ text.toList = pieces.map (·.getD '\ufffd')

/-- The reader repairs a byte list, which has no other repair. -/
theorem repairs_iff {bytes : List UInt8} {text : String} :
    Repairs bytes text ↔ decodeLossy bytes = text := by
  simp only [Repairs, pieces_iff, exists_eq_left', decodeLossy]
  rw [← String.toList_inj, String.toList_ofList, eq_comm]
  rfl

/-- The bytes of a text need no repair. -/
theorem repairs_encode (text : String) : Repairs (encode text) text :=
  ⟨_, pieces_flatMap_encodeChar text.toList, by simp [Function.comp_def]⟩

/-- A byte below 0x80, which is a character by itself. -/
def isAscii (byte : UInt8) : Bool := byte < 0x80

/-- A byte below 0x80 encodes the character with its number. -/
theorem encodeChar_ofNat {byte : UInt8} (ascii : byte.toNat < 0x80) :
    String.utf8EncodeChar (Char.ofNat byte.toNat) = [byte] :=
  encodeChar_eq_cons_iff.2 (.inl ⟨start_one ascii, rfl⟩)

/-- A byte below 0x80 in an encoding is all of it. -/
theorem eq_singleton_of_mem_encodeChar {c : Char} {byte : UInt8}
    (inside : byte ∈ String.utf8EncodeChar c) (ascii : byte.toNat < 0x80) :
    String.utf8EncodeChar c = [byte] := by
  have formed : WellFormed c.toNat (String.utf8EncodeChar c) := encodeChar_eq_iff.1 rfl
  generalize String.utf8EncodeChar c = bytes at formed inside
  cases formed with
  | one => rw [List.mem_singleton.1 inside]
  | two least _ last =>
    simp only [List.mem_cons, List.not_mem_nil, or_false] at inside
    unfold Trails at last
    rcases inside with rfl | rfl <;> omega
  | three least _ second _ _ last =>
    simp only [List.mem_cons, List.not_mem_nil, or_false] at inside
    unfold Trails at second last
    rcases inside with rfl | rfl | rfl <;> omega
  | four least _ second _ _ third last =>
    simp only [List.mem_cons, List.not_mem_nil, or_false] at inside
    unfold Trails at second third last
    rcases inside with rfl | rfl | rfl | rfl <;> omega

/-- No byte of a sequence in error is below 0x80. -/
theorem Breaks.isAscii_eq_false {broken others : List UInt8} (breaks : Breaks broken others)
    {byte : UInt8} (inside : byte ∈ broken) : isAscii byte = false := by
  refine Bool.eq_false_iff.2 fun small => ?_
  have ascii : byte.toNat < 0x80 := by simpa [isAscii, UInt8.lt_iff_toNat_lt] using small
  have alone : broken = [byte] := by
    obtain single | ⟨c, front⟩ := breaks.begun
    · obtain ⟨first, rfl⟩ := List.length_eq_one_iff.1 single
      rw [List.mem_singleton.1 inside]
    · rw [eq_singleton_of_mem_encodeChar (front.subset inside) ascii] at front
      exact (List.prefix_concat_iff.1 (List.nil_append [byte] ▸ front)).resolve_right
        fun none => breaks.nonempty (List.prefix_nil.1 none)
  exact breaks.not_character _ ⟨others, by rw [encodeChar_ofNat ascii, alone]⟩

/-- A repair keeps the bytes below 0x80, in their order, and adds none. -/
theorem Repairs.filter_encode {bytes : List UInt8} {text : String} (repairs : Repairs bytes text) :
    (encode text).filter isAscii = bytes.filter isAscii := by
  obtain ⟨pieces, given, characters⟩ := repairs
  rw [encode, characters]
  clear characters
  induction given with
  | nothing => rfl
  | character c _ ih =>
    rw [List.map_cons, List.flatMap_cons, List.filter_append, List.filter_append, ih]
    rfl
  | @error broken others pieces breaks _ ih =>
    have dropped : broken.filter isAscii = [] :=
      List.filter_eq_nil_iff.2 fun byte inside => by simp [breaks.isAscii_eq_false inside]
    have added : (String.utf8EncodeChar '\ufffd').filter isAscii = [] := by decide
    rw [List.map_cons, List.flatMap_cons, List.filter_append, List.filter_append, ih, dropped]
    exact congrArg (· ++ others.filter isAscii) added

end JavaLauncher.Text.Utf8
