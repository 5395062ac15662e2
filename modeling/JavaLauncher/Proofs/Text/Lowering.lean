import JavaLauncher.Text.LowerCase
import Mathlib

/-!
# Laws of the lower-case mapping

The mapping is a table of runs with two exceptions, and its laws are read off the runs as intervals,
never character by character. No run covers a lower-case form, so a text in lower case stays as it
is (`lowerCase_lowerCase`). Every lower-case form lies at or above `a`, so no character below it is
ever made (`mem_of_mem_lowerCase`). And the only character outside ASCII with a lower-case form in
it is the Kelvin sign, whose form is `k`; a text in ASCII without that letter is therefore the lower
case of its spellings in ASCII letters and of no other text (`lowerCase_eq_iff`).
-/
namespace JavaLauncher.Text

/-- The last of the lower-case forms of a run. -/
def LowerRun.lowerLast (run : LowerRun) : Nat := run.lower + (run.last - run.first)

/-- No lower-case form of a run is covered by another: the forms lie below or above it, or both go
in steps of two that never meet. -/
def LowerRun.clearOf (run other : LowerRun) : Bool :=
  run.lowerLast.blt other.first || other.last.blt run.lower ||
    ((run.stride == 2 || run.first == run.last) && other.stride == 2 &&
      (run.lower + other.first) % 2 == 1)

/-- A code point belongs to a run when it lies between its ends, a multiple of the stride away. -/
theorem LowerRun.covers_iff {run : LowerRun} {code : Nat} :
    run.covers code = true ↔
      run.first ≤ code ∧ code ≤ run.last ∧ (code - run.first) % run.stride = 0 := by
  simp only [LowerRun.covers, Bool.and_eq_true, decide_eq_true_eq, beq_iff_eq, and_assoc]

/-- A run does not cover the lower-case forms of a run that is clear of it. -/
theorem LowerRun.covers_eq_false_of_clearOf {run other : LowerRun}
    (clear : run.clearOf other = true) {code : Nat} (covered : run.covers code = true) :
    other.covers (run.lower + (code - run.first)) = false := by
  rw [← Bool.not_eq_true, LowerRun.covers_iff]
  rw [LowerRun.covers_iff] at covered
  obtain ⟨atLeast, atMost, step⟩ := covered
  intro meets
  obtain ⟨otherAtLeast, otherAtMost, otherStep⟩ := meets
  simp only [clearOf, Bool.or_eq_true, Bool.and_eq_true, Nat.blt_eq, beq_iff_eq] at clear
  rcases clear with (below | above) | ⟨⟨even | single, otherEven⟩, odd⟩
  · unfold lowerLast at below
    omega
  · omega
  · rw [even] at step
    rw [otherEven] at otherStep
    omega
  · rw [otherEven] at otherStep
    omega

/-- The runs are clear of one another and of themselves. -/
theorem clearOf_lowerRuns :
    (lowerRuns.all fun run => lowerRuns.all run.clearOf) = true := by decide +kernel

/-- The lower-case forms of every run are characters. -/
theorem isValidChar_lowerRuns : ∀ run ∈ lowerRuns,
    run.lowerLast < 0xD800 ∨ 0xDFFF < run.lower ∧ run.lowerLast < 0x110000 := by decide +kernel

/-- A character is covered by a run, whose lower-case form it has, or stays as it is. -/
theorem lowerChar_cases (c : Char) :
    (∃ run ∈ lowerRuns, run.covers c.toNat = true ∧
      (lowerChar c).toNat = run.lower + (c.toNat - run.first)) ∨
    ((∀ run ∈ lowerRuns, run.covers c.toNat = false) ∧ lowerChar c = c) := by
  unfold lowerChar
  cases found : lowerRuns.find? (·.covers c.toNat) with
  | none =>
    right
    exact ⟨fun run listed => Bool.eq_false_iff.2 (List.find?_eq_none.1 found run listed), rfl⟩
  | some run =>
    left
    have listed : run ∈ lowerRuns := List.mem_of_find?_eq_some found
    have covered : run.covers c.toNat = true := by simpa using List.find?_some found
    have valid := isValidChar_lowerRuns run listed
    have inside := LowerRun.covers_iff.1 covered
    have scalar : (run.lower + (c.toNat - run.first)).isValidChar := by
      simp only [LowerRun.lowerLast] at valid
      unfold Nat.isValidChar
      omega
    refine ⟨run, listed, covered, ?_⟩
    change (Char.ofNat (run.lower + (c.toNat - run.first))).toNat = _
    rw [Char.toNat_ofNat, if_pos scalar]

/-- A lower-case form stays as it is. -/
theorem lowerChar_lowerChar (c : Char) : lowerChar (lowerChar c) = lowerChar c := by
  rcases lowerChar_cases c with ⟨run, listed, covered, image⟩ | ⟨_, same⟩
  · rcases lowerChar_cases (lowerChar c) with ⟨other, listedOther, meets, _⟩ | ⟨_, settled⟩
    · have clear : run.clearOf other = true :=
        List.all_eq_true.1 (List.all_eq_true.1 clearOf_lowerRuns run listed) other listedOther
      rw [image, LowerRun.covers_eq_false_of_clearOf clear covered] at meets
      contradiction
    · exact settled
  · rw [same, same]

/-- A capital sigma is no lower-case form. -/
theorem lowerChar_ne_sigma (c : Char) : lowerChar c ≠ 'Σ' := by
  intro sigma
  have settled := lowerChar_lowerChar c
  rw [sigma] at settled
  exact absurd settled (by decide)

/-- A dotted capital I is no lower-case form of another character. -/
theorem lowerChar_ne_dotted {c : Char} (other : c ≠ 'İ') : lowerChar c ≠ 'İ' := by
  intro dotted
  rcases lowerChar_cases c with ⟨run, listed, covered, image⟩ | ⟨_, same⟩
  · have apart : ∀ run ∈ lowerRuns, run.lowerLast < 0x130 ∨ 0x130 < run.lower := by decide +kernel
    have beside := apart run listed
    have inside := LowerRun.covers_iff.1 covered
    have code : (lowerChar c).toNat = 0x130 := by rw [dotted]; rfl
    simp only [LowerRun.lowerLast] at beside
    omega
  · exact other (same.symm.trans dotted)

/-- A character that the lower-case mapping leaves as it is, wherever it stands. -/
def Lowered (c : Char) : Prop := c ≠ 'Σ' ∧ c ≠ 'İ' ∧ lowerChar c = c

instance : DecidablePred Lowered := fun _ => inferInstanceAs (Decidable (_ ∧ _ ∧ _))

/-- A character of a lower-case form is one that a rule of its own makes, or the form of another
character than the dotted capital I. -/
theorem special_or_eq_of_mem_lowerAt {before after : List Char} {c d : Char}
    (member : d ∈ lowerAt before c after) :
    d ∈ ['ς', 'σ', 'i', '\u0307'] ∨ c ≠ 'İ' ∧ d = lowerChar c := by
  unfold lowerAt at member
  split at member
  · left
    split at member
    · rw [List.mem_singleton.1 member]
      decide
    · rw [List.mem_singleton.1 member]
      decide
  split at member
  · left
    exact List.mem_cons_of_mem _ (List.mem_cons_of_mem _ member)
  · rename_i undotted
    right
    exact ⟨undotted, List.mem_singleton.1 member⟩

/-- Every character of a lower-case form is left as it is. -/
theorem lowered_of_mem_lowerAt {before after : List Char} {c d : Char}
    (member : d ∈ lowerAt before c after) : Lowered d := by
  rcases special_or_eq_of_mem_lowerAt member with special | ⟨undotted, rfl⟩
  · simp only [List.mem_cons, List.not_mem_nil, or_false] at special
    rcases special with rfl | rfl | rfl | rfl
    all_goals decide
  · exact ⟨lowerChar_ne_sigma c, lowerChar_ne_dotted undotted, lowerChar_lowerChar c⟩

/-- Every character of a text in lower case is left as it is. -/
theorem lowered_of_mem_lowerFrom {before text : List Char} {d : Char}
    (member : d ∈ lowerFrom before text) : Lowered d := by
  induction text generalizing before with
  | nil => cases member
  | cons c after ih =>
    rw [lowerFrom, List.mem_append] at member
    rcases member with here | later
    · exact lowered_of_mem_lowerAt here
    · exact ih later

/-- A text whose characters are left as they are is its own lower case. -/
theorem lowerFrom_of_lowered {before text : List Char} (lowered : ∀ c ∈ text, Lowered c) :
    lowerFrom before text = text := by
  induction text generalizing before with
  | nil => rfl
  | cons c after ih =>
    obtain ⟨plain, undotted, same⟩ := lowered c List.mem_cons_self
    have here : lowerAt before c after = [c] := by
      rw [lowerAt, if_neg plain, if_neg undotted, same]
    have later : lowerFrom (c :: before) after = after :=
      ih fun d inside => lowered d (List.mem_cons_of_mem c inside)
    rw [lowerFrom, here, later, List.singleton_append]

/-- The lower case of a text is in lower case. -/
theorem lowerCase_lowerCase (text : String) : lowerCase (lowerCase text) = lowerCase text := by
  apply String.toList_inj.1
  rw [toList_lowerCase, toList_lowerCase]
  exact lowerFrom_of_lowered fun c member => lowered_of_mem_lowerFrom member

/-- A character below `a` in a lower-case form is the character itself. -/
theorem eq_of_mem_lowerAt {before after : List Char} {c d : Char}
    (member : d ∈ lowerAt before c after) (low : d.toNat < 0x61) : d = c := by
  rcases special_or_eq_of_mem_lowerAt member with special | ⟨_, rfl⟩
  · simp only [List.mem_cons, List.not_mem_nil, or_false] at special
    rcases special with rfl | rfl | rfl | rfl
    all_goals exact absurd low (by decide)
  · rcases lowerChar_cases c with ⟨run, listed, _, image⟩ | ⟨_, same⟩
    · have atLeast : ∀ run ∈ lowerRuns, 0x61 ≤ run.lower := by decide +kernel
      have bound := atLeast run listed
      omega
    · exact same

/-- A character below `a` in the lower case of a text is in the text. -/
theorem mem_of_mem_lowerCase {text : String} {d : Char} (member : d ∈ (lowerCase text).toList)
    (low : d.toNat < 0x61) : d ∈ text.toList := by
  have inside : ∀ before characters, d ∈ lowerFrom before characters → d ∈ characters := by
    intro before characters found
    induction characters generalizing before with
    | nil => cases found
    | cons c after ih =>
      rw [lowerFrom, List.mem_append] at found
      rcases found with here | later
      · rw [eq_of_mem_lowerAt here low]
        exact List.mem_cons_self
      · exact List.mem_cons_of_mem c (ih (c :: before) later)
  rw [toList_lowerCase] at member
  exact inside [] text.toList member

/-- The capital letters of ASCII by their code points. -/
theorem isUpper_iff {c : Char} : c.isUpper = true ↔ 0x41 ≤ c.toNat ∧ c.toNat ≤ 0x5A := by
  simp only [Char.isUpper, UInt32.le_iff_toNat_le, decide_eq_true_eq]
  exact Iff.rfl

/-- In ASCII, the lower-case mapping is that of ASCII. -/
theorem lowerChar_eq_toLower {c : Char} (ascii : c.toNat < 0x80) : lowerChar c = c.toLower := by
  rcases lowerChar_cases c with ⟨run, listed, covered, image⟩ | ⟨uncovered, same⟩
  · have first : ∀ run ∈ lowerRuns, run.first < 0x80 →
        run.first = 0x41 ∧ run.last = 0x5A ∧ run.lower = 0x61 := by decide +kernel
    have inside := LowerRun.covers_iff.1 covered
    obtain ⟨start, stop, lower⟩ := first run listed (by omega)
    have upper : c.isUpper = true := isUpper_iff.2 (by omega)
    have scalar : (c.toNat + 32).isValidChar := Or.inl (by omega)
    apply Char.toNat_inj.1
    rw [image, Char.toLower_eq_of_isUpper upper, Char.toNat_ofNat, if_pos scalar]
    omega
  · have lower : ¬c.isUpper = true := by
      intro upper
      obtain ⟨atLeast, atMost⟩ := isUpper_iff.1 upper
      have letters : (⟨0x41, 0x5A, 1, 0x61⟩ : LowerRun) ∈ lowerRuns := List.mem_cons_self
      have unmet := uncovered _ letters
      rw [← Bool.not_eq_true, LowerRun.covers_iff] at unmet
      exact unmet ⟨atLeast, atMost, Nat.mod_one _⟩
    rw [same, Char.toLower_eq_of_not_isUpper lower]

/-- Only a character in ASCII has its lower-case form there, the Kelvin sign apart. -/
theorem ascii_of_lowerChar {c : Char} (image : (lowerChar c).toNat < 0x80) :
    c.toNat < 0x80 ∨ lowerChar c = 'k' := by
  rcases lowerChar_cases c with ⟨run, listed, covered, code⟩ | ⟨_, same⟩
  · have kelvin : ∀ run ∈ lowerRuns, run.lower < 0x80 →
        run.last < 0x80 ∨ run.lower = 0x6B ∧ run.first = run.last := by decide +kernel
    have inside := LowerRun.covers_iff.1 covered
    rcases kelvin run listed (by omega) with low | ⟨lower, single⟩
    · left
      omega
    · right
      apply Char.toNat_inj.1
      change (lowerChar c).toNat = 0x6B
      omega
  · left
    rw [same] at image
    exact image

/-- The lower-case form in ASCII of a character outside ASCII is outside as well. -/
theorem ascii_of_toLower {c : Char} (ascii : c.toLower.toNat < 0x80) : c.toNat < 0x80 := by
  by_cases upper : c.isUpper = true
  · have atMost : c.toNat ≤ 0x5A := (isUpper_iff.1 upper).2
    omega
  · rw [Char.toLower_eq_of_not_isUpper upper] at ascii
    exact ascii

/-- A character in ASCII other than `k` is the lower-case form of a character exactly when it is the
lower-case form in ASCII. -/
theorem lowerChar_eq_iff {c d : Char} (ascii : d.toNat < 0x80) (other : d ≠ 'k') :
    lowerChar c = d ↔ c.toLower = d := by
  constructor
  · rintro rfl
    have plain : c.toNat < 0x80 := (ascii_of_lowerChar ascii).resolve_right other
    exact (lowerChar_eq_toLower plain).symm
  · rintro rfl
    exact lowerChar_eq_toLower (ascii_of_toLower ascii)

/-- The two characters with a rule of their own have forms outside ASCII. -/
theorem exists_mem_lowerAt {c : Char} (special : c = 'Σ' ∨ c = 'İ') (before after : List Char) :
    ∃ d ∈ lowerAt before c after, ¬d.toNat < 0x80 := by
  rcases special with rfl | rfl
  · by_cases ends : (nextIsCased before && !nextIsCased after) = true
    · exact ⟨'ς', by simp [lowerAt, ends], by decide⟩
    · exact ⟨'σ', by simp [lowerAt, ends], by decide⟩
  · exact ⟨'\u0307', by simp [lowerAt], by decide⟩

/-- A character in ASCII that is in lower case and not the letter `k`. -/
def isPlain (c : Char) : Bool := c.toNat < 0x80 && c.toLower == c && c != 'k'

/-- What it takes to be plain. -/
theorem isPlain_iff {c : Char} :
    isPlain c = true ↔ c.toNat < 0x80 ∧ c.toLower = c ∧ c ≠ 'k' := by
  simp only [isPlain, Bool.and_eq_true, decide_eq_true_eq, beq_iff_eq, bne_iff_ne, and_assoc]

/-- Two texts are the same up to the case of the letters of ASCII. -/
def SameInAscii (text other : String) : Prop :=
  text.toList.map Char.toLower = other.toList.map Char.toLower

instance : DecidableRel SameInAscii := fun _ _ => inferInstanceAs (Decidable (_ = _))

/-- A plain text is the lower case of a text exactly when it is the lower case in ASCII. -/
theorem lowerFrom_eq_iff {name : List Char} (plain : ∀ d ∈ name, isPlain d = true)
    {before text : List Char} : lowerFrom before text = name ↔ text.map Char.toLower = name := by
  induction text generalizing before name with
  | nil => rfl
  | cons c after ih =>
    by_cases special : c = 'Σ' ∨ c = 'İ'
    · -- Both sides are outside ASCII, for different reasons.
      obtain ⟨d, made, high⟩ := exists_mem_lowerAt special before after
      have notMade : lowerFrom before (c :: after) ≠ name := by
        rintro rfl
        exact high (isPlain_iff.1 (plain d (List.mem_append_left _ made))).1
      have notKept : (c :: after).map Char.toLower ≠ name := by
        rintro rfl
        have low : c.toNat < 0x80 :=
          ascii_of_toLower (isPlain_iff.1 (plain c.toLower List.mem_cons_self)).1
        rcases special with rfl | rfl
        · exact absurd low (by decide)
        · exact absurd low (by decide)
      exact iff_of_false notMade notKept
    · obtain ⟨sigma, dotted⟩ := not_or.1 special
      have here : lowerAt before c after = [lowerChar c] := by
        rw [lowerAt, if_neg sigma, if_neg dotted]
      rw [lowerFrom, here, List.singleton_append, List.map_cons]
      cases name with
      | nil => exact iff_of_false (List.cons_ne_nil _ _) (List.cons_ne_nil _ _)
      | cons d name =>
        obtain ⟨ascii, _, other⟩ := isPlain_iff.1 (plain d List.mem_cons_self)
        have later : lowerFrom (c :: before) after = name ↔ after.map Char.toLower = name :=
          ih fun e inside => plain e (List.mem_cons_of_mem d inside)
        rw [List.cons.injEq, List.cons.injEq, lowerChar_eq_iff ascii other, later]

/-- A plain text is the lower case of exactly those texts that are the same up to the case of the
letters of ASCII. -/
theorem lowerCase_eq_iff {text name : String} (plain : name.toList.all isPlain = true) :
    lowerCase text = name ↔ SameInAscii text name := by
  rw [List.all_eq_true] at plain
  have lower : name.toList.map Char.toLower = name.toList := by
    rw [List.map_congr_left fun d inside => (isPlain_iff.1 (plain d inside)).2.1, List.map_id']
  rw [← String.toList_inj, toList_lowerCase, SameInAscii, lower]
  exact lowerFrom_eq_iff plain

/-- A text that is the same as a plain one, up to the case of the letters of ASCII, is in ASCII. -/
theorem ascii_of_sameInAscii {text name : String} (plain : name.toList.all isPlain = true)
    (same : SameInAscii text name) {c : Char} (member : c ∈ text.toList) : c.toNat < 0x80 := by
  have lowered : c.toLower ∈ name.toList.map Char.toLower := by
    rw [← same]
    exact List.mem_map_of_mem member
  obtain ⟨d, inside, letter⟩ := List.mem_map.1 lowered
  obtain ⟨ascii, lower, _⟩ := isPlain_iff.1 (List.all_eq_true.1 plain d inside)
  apply ascii_of_toLower
  rw [← letter, lower]
  exact ascii

/-- The Kelvin sign is why `k` is not plain. -/
example : lowerCase "\u212A" = "k" ∧ ¬SameInAscii "\u212A" "k" := by decide

end JavaLauncher.Text
