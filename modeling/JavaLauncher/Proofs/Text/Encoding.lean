import JavaLauncher.Text.Utf8

/-!
# Characters and the states of the reader

A reader of bytes that has begun a character holds all that it needs to know of the bytes read so
far: which bytes may follow and which character they make. The bytes that take a state to its end
are the rest of an encoding, and the other way round (`encodeChar_eq_cons_iff`,
`Reached.encodeChar_eq_append_iff`). So no encoding ends inside a character that the reader has
begun (`Reached.not_prefix`), and every character that it has begun can be completed
(`Reached.exists_encodeChar`).
-/
namespace JavaLauncher.Text.Utf8

/-- A byte that is not the first one of a character has six bits of it. -/
def Trails (byte : UInt8) : Prop := 0x80 ≤ byte.toNat ∧ byte.toNat ≤ 0xBF

/-- The byte sequences of the scalar values. No value has a longer sequence than it needs, and
neither surrogates nor numbers above the last scalar value have one. -/
inductive WellFormed (value : Nat) : List UInt8 → Prop where
  /-- One byte. -/
  | one {lead : UInt8} : lead.toNat < 0x80 → value = lead.toNat → WellFormed value [lead]
  /-- Two bytes. -/
  | two {lead last : UInt8} : 0xC2 ≤ lead.toNat → lead.toNat < 0xE0 → Trails last →
    value = lead.toNat % 0x20 * 0x40 + last.toNat % 0x40 → WellFormed value [lead, last]
  /-- Three bytes. -/
  | three {lead second last : UInt8} : 0xE0 ≤ lead.toNat → lead.toNat < 0xF0 →
    Trails second → (lead.toNat = 0xE0 → 0xA0 ≤ second.toNat) →
    (lead.toNat = 0xED → second.toNat ≤ 0x9F) → Trails last →
    value = (lead.toNat % 0x10 * 0x40 + second.toNat % 0x40) * 0x40 + last.toNat % 0x40 →
      WellFormed value [lead, second, last]
  /-- Four bytes. -/
  | four {lead second third last : UInt8} : 0xF0 ≤ lead.toNat → lead.toNat ≤ 0xF4 →
    Trails second → (lead.toNat = 0xF0 → 0x90 ≤ second.toNat) →
    (lead.toNat = 0xF4 → second.toNat ≤ 0x8F) → Trails third → Trails last →
    value = ((lead.toNat % 0x08 * 0x40 + second.toNat % 0x40) * 0x40 + third.toNat % 0x40) * 0x40 +
      last.toNat % 0x40 → WellFormed value [lead, second, third, last]

/-- The encoding of a character is the sequence of its scalar value. -/
theorem encodeChar_eq_iff {c : Char} {bytes : List UInt8} :
    String.utf8EncodeChar c = bytes ↔ WellFormed c.toNat bytes := by
  have scalar : c.val.toNat = c.toNat := rfl
  have valid : c.toNat.isValidChar := c.valid
  simp only [Nat.isValidChar] at valid
  simp only [String.utf8EncodeChar, scalar]
  constructor
  · rintro rfl
    split
    · refine .one ?_ ?_ <;> simp only [UInt8.toNat_ofNat'] <;> omega
    split
    · refine .two ?_ ?_ ⟨?_, ?_⟩ ?_ <;> simp only [UInt8.toNat_ofNat'] <;> omega
    split
    · refine .three ?_ ?_ ⟨?_, ?_⟩ ?_ ?_ ⟨?_, ?_⟩ ?_ <;> simp only [UInt8.toNat_ofNat'] <;> omega
    · refine .four ?_ ?_ ⟨?_, ?_⟩ ?_ ?_ ⟨?_, ?_⟩ ⟨?_, ?_⟩ ?_ <;> simp only [UInt8.toNat_ofNat'] <;>
        omega
  · intro formed
    cases formed with
    | one small value =>
      rw [if_pos (by omega)]
      simp only [List.cons.injEq, ← UInt8.toNat_inj, UInt8.toNat_ofNat', and_true]
      omega
    | two least most last value =>
      unfold Trails at last
      rw [if_neg (by omega), if_pos (by omega)]
      simp only [List.cons.injEq, ← UInt8.toNat_inj, UInt8.toNat_ofNat', and_true]
      omega
    | three least most second low high last value =>
      unfold Trails at second last
      rw [if_neg (by omega), if_neg (by omega), if_pos (by omega)]
      simp only [List.cons.injEq, ← UInt8.toNat_inj, UInt8.toNat_ofNat', and_true]
      omega
    | four least most second low high third last value =>
      unfold Trails at second third last
      rw [if_neg (by omega), if_neg (by omega), if_neg (by omega)]
      simp only [List.cons.injEq, ← UInt8.toNat_inj, UInt8.toNat_ofNat', and_true]
      omega

/-! ### The states of the reader -/

/-- A byte between characters is a character, belongs to none, or is the first of two, three or
four. -/
theorem lead_cases (byte : UInt8) :
    byte.toNat < 0x80 ∨ (0x80 ≤ byte.toNat ∧ byte.toNat < 0xC2 ∨ 0xF4 < byte.toNat) ∨
      (0xC2 ≤ byte.toNat ∧ byte.toNat < 0xE0) ∨ (0xE0 ≤ byte.toNat ∧ byte.toNat < 0xF0) ∨
      (0xF0 ≤ byte.toNat ∧ byte.toNat ≤ 0xF4) := by
  omega

section

variable {byte : UInt8}

/-- A byte below 0x80 is a character. -/
theorem start_one (small : byte.toNat < 0x80) :
    start byte = ([some (Char.ofNat byte.toNat)], none) := if_pos small

/-- No character begins with these bytes. -/
theorem start_stray (stray : 0x80 ≤ byte.toNat ∧ byte.toNat < 0xC2 ∨ 0xF4 < byte.toNat) :
    start byte = ([none], none) := by
  simp only [start]
  rw [if_neg (by omega)]
  obtain ⟨_, most⟩ | least := stray
  · rw [if_pos most]
  · iterate 8 rw [if_neg (by omega)]

/-- After the first byte of two, one is missing. -/
theorem start_two (least : 0xC2 ≤ byte.toNat) (most : byte.toNat < 0xE0) :
    start byte = ([], some ⟨byte.toNat % 0x20, 0x80, 0xBF, 0⟩) := by
  simp only [start]
  rw [if_neg (by omega), if_neg (by omega), if_pos most]

/-- After the first byte of three, two are missing, and two first bytes bound the next one more
closely. -/
theorem start_three (least : 0xE0 ≤ byte.toNat) (most : byte.toNat < 0xF0) :
    start byte = ([], some ⟨byte.toNat % 0x10, if byte.toNat = 0xE0 then 0xA0 else 0x80,
      if byte.toNat = 0xED then 0x9F else 0xBF, 1⟩) := by
  simp only [start]
  rw [if_neg (by omega), if_neg (by omega), if_neg (by omega)]
  by_cases low : byte.toNat = 0xE0
  · simp [low]
  by_cases high : byte.toNat = 0xED
  · simp [high]
  · simp [low, high, most]

/-- After the first byte of four, three are missing, and two first bytes bound the next one more
closely. -/
theorem start_four (least : 0xF0 ≤ byte.toNat) (most : byte.toNat ≤ 0xF4) :
    start byte = ([], some ⟨byte.toNat % 0x08, if byte.toNat = 0xF0 then 0x90 else 0x80,
      if byte.toNat = 0xF4 then 0x8F else 0xBF, 2⟩) := by
  simp only [start]
  iterate 6 rw [if_neg (by omega)]
  by_cases low : byte.toNat = 0xF0
  · simp [low]
  by_cases high : byte.toNat = 0xF4
  · simp [high]
  · rw [if_neg low, if_pos (by omega), if_neg low, if_neg high]

end

/-- A byte between characters is a character, belongs to none, or begins one. -/
theorem start_cases (byte : UInt8) :
    (∃ c, start byte = ([some c], none)) ∨ start byte = ([none], none) ∨
      ∃ pending, start byte = ([], some pending) := by
  obtain small | stray | ⟨least, most⟩ | ⟨least, most⟩ | ⟨least, most⟩ := lead_cases byte
  · exact .inl ⟨_, start_one small⟩
  · exact .inr (.inl (start_stray stray))
  · exact .inr (.inr ⟨_, start_two least most⟩)
  · exact .inr (.inr ⟨_, start_three least most⟩)
  · exact .inr (.inr ⟨_, start_four least most⟩)

/-- A byte lies between the bounds of a state. -/
def Pending.Takes (pending : Pending) (byte : UInt8) : Prop :=
  pending.low ≤ byte.toNat ∧ byte.toNat ≤ pending.high

instance (pending : Pending) (byte : UInt8) : Decidable (pending.Takes byte) :=
  inferInstanceAs (Decidable (pending.low ≤ byte.toNat ∧ byte.toNat ≤ pending.high))

/-- The bytes that take a state to the end of a character. -/
inductive Completes : Pending → List UInt8 → Char → Prop where
  /-- The last byte of the character. -/
  | last {pending : Pending} {byte : UInt8} {c : Char} :
    pending.step byte = ([some c], none) → Completes pending [byte] c
  /-- A byte after which more are missing. -/
  | next {pending after : Pending} {byte : UInt8} {bytes : List UInt8} {c : Char} :
    pending.step byte = ([], some after) → Completes after bytes c →
      Completes pending (byte :: bytes) c

section

variable {code low high later : Nat} {byte : UInt8}

/-- The last byte that is missing makes the character. -/
theorem step_last (inside : Pending.Takes ⟨code, low, high, 0⟩ byte) :
    Pending.step ⟨code, low, high, 0⟩ byte =
      ([some (Char.ofNat (code * 0x40 + byte.toNat % 0x40))], none) := if_pos inside

/-- Any other byte that is missing adds six bits. -/
theorem step_next (inside : Pending.Takes ⟨code, low, high, later + 1⟩ byte) :
    Pending.step ⟨code, low, high, later + 1⟩ byte =
      ([], some ⟨code * 0x40 + byte.toNat % 0x40, 0x80, 0xBF, later⟩) := if_pos inside

/-- A byte that is out of bounds ends the character as an error and is read anew. -/
theorem step_outside {pending : Pending} (outside : ¬pending.Takes byte) :
    pending.step byte = (none :: (start byte).1, (start byte).2) := if_neg outside

/-- A byte between the bounds of a state completes the character or leads on. -/
theorem step_cases {pending : Pending} (inside : pending.Takes byte) :
    (∃ c, pending.step byte = ([some c], none)) ∨
      ∃ after, pending.step byte = ([], some after) := by
  obtain ⟨code, low, high, later⟩ := pending
  cases later with
  | zero => exact .inl ⟨_, step_last inside⟩
  | succ later => exact .inr ⟨_, step_next inside⟩

/-- Only a byte between the bounds of a state is one of a character. -/
theorem Completes.takes {pending : Pending} {bytes : List UInt8} {c : Char}
    (completes : Completes pending (byte :: bytes) c) : pending.Takes byte := by
  refine Decidable.byContradiction fun outside => ?_
  cases completes with
  | last stepped => simp [step_outside outside] at stepped
  | next stepped _ => simp [step_outside outside] at stepped

/-- A state in which one byte is missing. -/
theorem completes_last_iff {bytes : List UInt8} {c : Char} :
    Completes ⟨code, low, high, 0⟩ bytes c ↔ ∃ byte, bytes = [byte] ∧
      Pending.Takes ⟨code, low, high, 0⟩ byte ∧
        Char.ofNat (code * 0x40 + byte.toNat % 0x40) = c := by
  constructor
  · intro completes
    cases completes with
    | last stepped =>
      have inside := (Completes.last stepped).takes
      rw [step_last inside] at stepped
      exact ⟨_, rfl, inside, by simpa using stepped⟩
    | next stepped rest =>
      have inside := (Completes.next stepped rest).takes
      simp [step_last inside] at stepped
  · rintro ⟨byte, rfl, inside, rfl⟩
    exact .last (step_last inside)

/-- A state in which more than one byte is missing. -/
theorem completes_next_iff {bytes : List UInt8} {c : Char} :
    Completes ⟨code, low, high, later + 1⟩ bytes c ↔ ∃ byte rest, bytes = byte :: rest ∧
      Pending.Takes ⟨code, low, high, later + 1⟩ byte ∧
        Completes ⟨code * 0x40 + byte.toNat % 0x40, 0x80, 0xBF, later⟩ rest c := by
  constructor
  · intro completes
    cases completes with
    | last stepped =>
      have inside := (Completes.last stepped).takes
      simp [step_next inside] at stepped
    | next stepped rest =>
      have inside := (Completes.next stepped rest).takes
      rw [step_next inside] at stepped
      cases stepped
      exact ⟨_, _, rfl, inside, rest⟩
  · rintro ⟨byte, rest, rfl, inside, completes⟩
    exact .next (step_next inside) completes

end

/-- The bounds of a state whose next byte may be bounded more closely than others are. -/
theorem takes_narrowed_iff {code later lead lowLead low highLead high : Nat} {byte : UInt8}
    (least : 0x80 ≤ low) (most : high ≤ 0xBF) :
    Pending.Takes ⟨code, if lead = lowLead then low else 0x80,
        if lead = highLead then high else 0xBF, later⟩ byte ↔
      Trails byte ∧ (lead = lowLead → low ≤ byte.toNat) ∧
        (lead = highLead → byte.toNat ≤ high) := by
  simp only [Pending.Takes, Trails]
  split <;> split <;> omega

/-- A scalar value is the number of one character. -/
theorem ofNat_eq_iff {n : Nat} (valid : n.isValidChar) {c : Char} :
    Char.ofNat n = c ↔ c.toNat = n := by
  constructor
  · rintro rfl
    rw [Char.ofNat, dif_pos valid]
    rfl
  · rintro rfl
    exact Char.ofNat_toNat c

/-- A byte list that the reader takes for one character: a byte that is one by itself, or a byte
that begins one and the bytes that complete it. -/
def Begins (byte : UInt8) (bytes : List UInt8) (c : Char) : Prop :=
  start byte = ([some c], none) ∧ bytes = [] ∨
    ∃ pending, start byte = ([], some pending) ∧ Completes pending bytes c

/-- Where a byte begins a character, the bytes that complete it make the character. -/
theorem begins_iff_completes {byte : UInt8} {pending : Pending}
    (started : start byte = ([], some pending)) {bytes : List UInt8} {c : Char} :
    Begins byte bytes c ↔ Completes pending bytes c := by
  simp [Begins, started]

/-- The reader takes a well-formed sequence for its character. -/
theorem WellFormed.begins {c : Char} {byte : UInt8} {bytes : List UInt8}
    (formed : WellFormed c.toNat (byte :: bytes)) : Begins byte bytes c := by
  cases formed with
  | one small value =>
    refine .inl ⟨?_, rfl⟩
    rw [start_one small, ← value, Char.ofNat_toNat]
  | two least most last value =>
    refine (begins_iff_completes (start_two least most)).2 (completes_last_iff.2
      ⟨_, rfl, last, ?_⟩)
    rw [← value, Char.ofNat_toNat]
  | three least most second low high last value =>
    refine (begins_iff_completes (start_three least most)).2 (completes_next_iff.2 ⟨_, _, rfl,
      (takes_narrowed_iff (by decide) (by decide)).2 ⟨second, low, high⟩,
      completes_last_iff.2 ⟨_, rfl, last, ?_⟩⟩)
    rw [← value, Char.ofNat_toNat]
  | four least most second low high third last value =>
    refine (begins_iff_completes (start_four least most)).2 (completes_next_iff.2 ⟨_, _, rfl,
      (takes_narrowed_iff (by decide) (by decide)).2 ⟨second, low, high⟩,
      completes_next_iff.2 ⟨_, _, rfl, third, completes_last_iff.2 ⟨_, rfl, last, ?_⟩⟩⟩)
    rw [← value, Char.ofNat_toNat]

/-- The reader takes nothing but well-formed sequences for a character. -/
theorem Begins.wellFormed {c : Char} {byte : UInt8} {bytes : List UInt8}
    (begins : Begins byte bytes c) : WellFormed c.toNat (byte :: bytes) := by
  obtain small | stray | ⟨least, most⟩ | ⟨least, most⟩ | ⟨least, most⟩ := lead_cases byte
  · obtain ⟨started, rfl⟩ | ⟨_, started, _⟩ := begins
    · rw [start_one small] at started
      have made : Char.ofNat byte.toNat = c := by simpa using started
      exact .one small ((ofNat_eq_iff (.inl (by omega))).1 made)
    · simp [start_one small] at started
  · simp [Begins, start_stray stray] at begins
  · have rest := (begins_iff_completes (start_two least most)).1 begins
    obtain ⟨last, rfl, trails, made⟩ := completes_last_iff.1 rest
    exact .two least most trails ((ofNat_eq_iff (.inl (by omega))).1 made)
  · have rest := (begins_iff_completes (start_three least most)).1 begins
    obtain ⟨second, _, rfl, inside, rest⟩ := completes_next_iff.1 rest
    obtain ⟨last, rfl, trails, made⟩ := completes_last_iff.1 rest
    obtain ⟨trailsSecond, low, high⟩ := (takes_narrowed_iff (by decide) (by decide)).1 inside
    refine .three least most trailsSecond low high trails ((ofNat_eq_iff ?_).1 made)
    unfold Trails at trailsSecond
    unfold Nat.isValidChar
    omega
  · have rest := (begins_iff_completes (start_four least most)).1 begins
    obtain ⟨second, _, rfl, inside, rest⟩ := completes_next_iff.1 rest
    obtain ⟨third, _, rfl, trailsThird, rest⟩ := completes_next_iff.1 rest
    obtain ⟨last, rfl, trails, made⟩ := completes_last_iff.1 rest
    obtain ⟨trailsSecond, low, high⟩ := (takes_narrowed_iff (by decide) (by decide)).1 inside
    refine .four least most trailsSecond low high trailsThird trails ((ofNat_eq_iff ?_).1 made)
    unfold Trails at trailsSecond
    unfold Nat.isValidChar
    omega

/-- The reader takes exactly the encodings for their characters. -/
theorem encodeChar_eq_cons_iff {c : Char} {byte : UInt8} {bytes : List UInt8} :
    String.utf8EncodeChar c = byte :: bytes ↔ Begins byte bytes c :=
  encodeChar_eq_iff.trans ⟨WellFormed.begins, Begins.wellFormed⟩

/-! ### Characters that have been begun -/

/-- The bytes by which the reader comes from between characters to a state. -/
inductive Reached : List UInt8 → Pending → Prop where
  /-- The first byte of a character. -/
  | first {byte : UInt8} {pending : Pending} :
    start byte = ([], some pending) → Reached [byte] pending
  /-- One more byte of a character, not the last one. -/
  | next {read : List UInt8} {pending after : Pending} {byte : UInt8} :
    Reached read pending → pending.step byte = ([], some after) → Reached (read ++ [byte]) after

/-- No character is completed without a byte. -/
theorem not_completes_nil {pending : Pending} {c : Char} : ¬Completes pending [] c := nofun

/-- Where a byte leads on to another state, what completes the one begins with it and goes on as
what completes the other. -/
theorem completes_cons_iff {pending after : Pending} {byte : UInt8} {bytes : List UInt8} {c : Char}
    (stepped : pending.step byte = ([], some after)) :
    Completes pending (byte :: bytes) c ↔ Completes after bytes c := by
  constructor
  · intro completes
    cases completes with
    | last other => simp [stepped] at other
    | next other rest =>
      rw [stepped] at other
      cases other
      exact rest
  · exact .next stepped

section

variable {read : List UInt8} {pending : Pending} {c : Char}

/-- After the bytes that lead to a state, exactly what completes it completes an encoding. -/
theorem Reached.encodeChar_eq_append_iff (reached : Reached read pending) {bytes : List UInt8} :
    String.utf8EncodeChar c = read ++ bytes ↔ Completes pending bytes c := by
  induction reached generalizing bytes with
  | first started =>
    rw [List.singleton_append, encodeChar_eq_cons_iff, begins_iff_completes started]
  | next _ stepped ih =>
    rw [List.append_assoc, List.singleton_append, ih]
    exact completes_cons_iff stepped

/-- A state is not reached without a byte. -/
theorem Reached.ne_nil (reached : Reached read pending) : read ≠ [] := by
  cases reached <;> simp

/-- No encoding ends where the reader is inside a character. -/
theorem Reached.not_prefix (reached : Reached read pending) :
    ¬String.utf8EncodeChar c <+: read := by
  have unfinished : ∀ {read pending}, Reached read pending → String.utf8EncodeChar c ≠ read := by
    intro read pending reached whole
    rw [← List.append_nil read, reached.encodeChar_eq_append_iff] at whole
    exact not_completes_nil whole
  induction reached with
  | @first byte pending started =>
    intro front
    obtain whole | none := List.prefix_concat_iff.1 (List.nil_append [byte] ▸ front)
    · exact unfinished (.first started) whole
    · exact String.utf8EncodeChar_ne_nil (List.prefix_nil.1 none)
  | next earlier stepped ih =>
    intro front
    obtain whole | shorter := List.prefix_concat_iff.1 front
    · exact unfinished (.next earlier stepped) whole
    · exact ih shorter

/-- The bounds of a state that is reached leave room for a byte, and are those of bytes that do not
begin a character. -/
theorem Reached.bounds (reached : Reached read pending) :
    0x80 ≤ pending.low ∧ pending.low ≤ pending.high ∧ pending.high ≤ 0xBF := by
  cases reached with
  | @first byte _ started =>
    obtain small | stray | ⟨least, most⟩ | ⟨least, most⟩ | ⟨least, most⟩ := lead_cases byte
    · simp [start_one small] at started
    · simp [start_stray stray] at started
    · rw [start_two least most] at started
      cases started
      dsimp only
      omega
    · rw [start_three least most] at started
      cases started
      dsimp only
      split <;> split <;> omega
    · rw [start_four least most] at started
      cases started
      dsimp only
      split <;> split <;> omega
  | @next _ before _ byte _ stepped =>
    obtain ⟨code, low, high, later⟩ := before
    by_cases inside : Pending.Takes ⟨code, low, high, later⟩ byte
    · cases later with
      | zero => simp [step_last inside] at stepped
      | succ later =>
        rw [step_next inside] at stepped
        cases stepped
        dsimp only
        omega
    · simp [step_outside inside] at stepped

/-- A state whose bounds leave room for a byte can be completed. -/
theorem exists_completes {code low high later : Nat} (room : low ≤ high) (most : high ≤ 0xBF) :
    ∃ bytes c, Completes ⟨code, low, high, later⟩ bytes c := by
  have least : (UInt8.ofNat low).toNat = low := by
    rw [UInt8.toNat_ofNat']
    omega
  have inside : Pending.Takes ⟨code, low, high, later⟩ (UInt8.ofNat low) := by
    simp only [Pending.Takes, least]
    exact ⟨Nat.le_refl low, room⟩
  induction later generalizing code low high with
  | zero => exact ⟨_, _, .last (step_last inside)⟩
  | succ later ih =>
    have tails : 0x80 ≤ 0xBF := by decide
    obtain ⟨bytes, c, completes⟩ := @ih (code * 0x40 + (UInt8.ofNat low).toNat % 0x40) 0x80 0xBF
      tails (Nat.le_refl _) rfl ⟨Nat.le_refl _, tails⟩
    exact ⟨_, _, .next (step_next inside) completes⟩

/-- The bytes that lead to a state are the front of an encoding. -/
theorem Reached.exists_encodeChar (reached : Reached read pending) :
    ∃ c, read <+: String.utf8EncodeChar c := by
  obtain ⟨_, room, most⟩ := reached.bounds
  obtain ⟨bytes, c, completes⟩ := exists_completes room most
  exact ⟨c, bytes, (reached.encodeChar_eq_append_iff.2 completes).symm⟩

end

end JavaLauncher.Text.Utf8
