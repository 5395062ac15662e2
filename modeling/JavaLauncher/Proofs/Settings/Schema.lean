import JavaLauncher.Proofs.Settings.Files
import JavaLauncher.Proofs.Toml.DistinctNames
import Mathlib.Data.List.Nodup

/-!
# Which tables are settings

An entry of a table fits one of the settings or offends for one reason (`fits_or_offends`), so a
table is read entry by entry until one offends. Since the entries are read in the order of their
names, and no name stands twice in the table of a document, the settings and the reason are a matter
of the table alone: it holds settings exactly where all entries fit, and otherwise it is refused for
the offending entry with the least name (`loadFile_schema_exact`).

A value of the wrong type is told by what it is called. A number need not be one that there is: an
integer of more than 128 bits is in form like any other, but it is refused for being no such number
and not as an integer (`loadFile_too_large`).
-/
namespace JavaLauncher.Settings

/-- An entry is what one of the settings expects. -/
inductive Fits : String × Toml.Value → Prop where
  /-- The Java installation is a text. -/
  | javaHome (text : String) : Fits ("java_home", .string text)
  /-- The extra arguments are a text. -/
  | jvmArguments (text : String) : Fits ("jvmargs", .string text)
  /-- The search path is a list of texts. -/
  | searchPath (texts : List String) : Fits ("search_path", .array (texts.map .string))

/-- A value has the form of a number, but there is no such number to be told: an integer has no
digits, or needs more than 128 bits, or a floating-point number is beyond the range of its format.
-/
inductive Unreadable : Toml.Value → Prop where
  /-- The digits spell no integer. -/
  | illegible : Unreadable .illegible
  /-- The integer fits neither a signed nor an unsigned word of 128 bits. -/
  | integer {number : Int} (beyond : number < -Int.pow 2 127 ∨ Int.pow 2 128 ≤ number) :
      Unreadable (.integer number)
  /-- The number is beyond the largest one of the format. -/
  | float {negative : Bool} {mantissa : Nat} {exponent : Int}
      (beyond : Binary64.ofDecimal mantissa exponent = none) :
      Unreadable (.float (.decimal negative mantissa exponent))

/-- A value is refused for a reason where something else is expected: it is of the wrong type,
unless it is a number that there is not. -/
inductive Mismatch (value : Toml.Value) (expected : String) : SchemaError → Prop where
  /-- A value that is called something. -/
  | wrongType (readable : ¬Unreadable value) (named : (SchemaError.valueName? value).isSome) :
      Mismatch value expected (.wrongType value expected named)
  /-- A number that is called nothing. -/
  | noSuchNumber (unreadable : Unreadable value) (unnamed : SchemaError.valueName? value = none) :
      Mismatch value expected (.noSuchNumber value unnamed)

/-- An entry is refused for a reason. -/
inductive Offends : String × Toml.Value → SchemaError → Prop where
  /-- No setting has the name, whatever the value is. -/
  | foreign {name : String} {value : Toml.Value} (home : name ≠ "java_home")
      (arguments : name ≠ "jvmargs") (path : name ≠ "search_path") :
      Offends (name, value) (.unknownName name)
  /-- A text is expected. -/
  | text {name : String} {value : Toml.Value} {cause : SchemaError}
      (known : name = "java_home" ∨ name = "jvmargs") (other : ∀ text, value ≠ .string text)
      (mismatch : Mismatch value "a string" cause) : Offends (name, value) cause
  /-- A list is expected. -/
  | list {value : Toml.Value} {cause : SchemaError} (other : ∀ items, value ≠ .array items)
      (mismatch : Mismatch value "a sequence" cause) : Offends ("search_path", value) cause
  /-- The first item of a list that is no text. -/
  | item {before : List String} {item : Toml.Value} {after : List Toml.Value} {cause : SchemaError}
      (other : ∀ text, item ≠ .string text) (mismatch : Mismatch item "a string" cause) :
      Offends ("search_path", .array (before.map .string ++ item :: after)) cause

/-- A setting is the value of a name in a table, unchanged, or is not set where the name is absent.
-/
structure Tells {α : Type} (table : Toml.Table) (name : String) (shape : α → Toml.Value)
    (setting : Option α) : Prop where
  /-- The value of the name is set. -/
  present : ∀ value, (name, value) ∈ table →
    ∃ content, value = shape content ∧ setting = some content
  /-- Nothing is set where the name is absent. -/
  absent : name ∉ table.map Prod.fst → setting = none

/-- Settings are what a table tells of each of them. -/
structure Told (table : Toml.Table) (settings : Settings) : Prop where
  /-- The Java installation. -/
  javaHome : Tells table "java_home" .string settings.javaHome
  /-- The extra arguments. -/
  jvmArguments : Tells table "jvmargs" .string settings.jvmArguments
  /-- The search path. -/
  searchPath : Tells table "search_path" (fun texts => .array (texts.map .string))
    settings.searchPath

/-- An entry of a table is the one with the least name that is refused, for this reason. -/
def FirstOffence (table : Toml.Table) (cause : SchemaError) : Prop :=
  ∃ entry ∈ table, Offends entry cause ∧ ∀ other ∈ table, other.1 < entry.1 → Fits other

/-- An integer has no text where it fits no word. -/
theorem integerText?_eq_none_iff {number : Int} :
    SchemaError.integerText? number = none ↔
      number < -Int.pow 2 127 ∨ Int.pow 2 128 ≤ number := by
  have word : Int.pow 2 63 = 9223372036854775808 := by decide
  have unsigned : Int.pow 2 64 = 18446744073709551616 := by decide
  have long : Int.pow 2 127 = 170141183460469231731687303715884105728 := by decide
  have unsignedLong : Int.pow 2 128 = 340282366920938463463374607431768211456 := by decide
  rw [SchemaError.integerText?, word, unsigned, long, unsignedLong]
  split
  · refine iff_of_false (by simp) ?_
    omega
  split
  · refine iff_of_false (by simp) ?_
    omega
  split
  · refine iff_of_false (by simp) ?_
    omega
  · refine iff_of_true rfl ?_
    omega

/-- A floating-point number has no text where it is beyond the range of the format. -/
theorem floatText?_eq_none_iff {literal : Toml.FloatLiteral} :
    SchemaError.floatText? literal = none ↔ Unreadable (.float literal) := by
  cases literal with
  | infinite negative => exact iff_of_false (by simp [SchemaError.floatText?]) nofun
  | notANumber => exact iff_of_false (by simp [SchemaError.floatText?]) nofun
  | decimal negative mantissa exponent =>
    rw [SchemaError.floatText?, Option.map_eq_none_iff]
    constructor
    · exact .float
    · intro unreadable
      cases unreadable with
      | float beyond => exact beyond

/-- A value has no name where it is a number that cannot be told. -/
theorem valueName?_eq_none_iff {value : Toml.Value} :
    SchemaError.valueName? value = none ↔ Unreadable value := by
  cases value with
  | illegible => exact iff_of_true rfl .illegible
  | integer number =>
    rw [SchemaError.valueName?, integerText?_eq_none_iff]
    constructor
    · exact .integer
    · intro unreadable
      cases unreadable with
      | integer beyond => exact beyond
  | float literal => rw [SchemaError.valueName?, Option.map_eq_none_iff, floatText?_eq_none_iff]
  | string _ | boolean _ | dateTime | array _ | table _ =>
    exact iff_of_false (by simp [SchemaError.valueName?]) nofun

/-- A value is refused for the one reason for which it is when something else is expected. -/
theorem mismatch_iff {value : Toml.Value} {expected : String} {cause : SchemaError} :
    Mismatch value expected cause ↔ SchemaError.ofMismatch value expected = cause := by
  rw [SchemaError.ofMismatch]
  split
  · rename_i name told
    have readable : ¬Unreadable value := by
      rw [← valueName?_eq_none_iff, told]
      exact nofun
    constructor
    · rintro (⟨_, named⟩ | ⟨unreadable, _⟩)
      · rfl
      · exact absurd unreadable readable
    · rintro rfl
      exact .wrongType readable _
  · rename_i told
    have unreadable := valueName?_eq_none_iff.1 told
    constructor
    · rintro (⟨readable, _⟩ | ⟨_, _⟩)
      · exact absurd unreadable readable
      · rfl
    · rintro rfl
      exact .noSuchNumber unreadable told

/-- Where something else is expected a value is refused. -/
theorem exists_mismatch (value : Toml.Value) (expected : String) :
    ∃ cause, Mismatch value expected cause := ⟨_, mismatch_iff.2 rfl⟩

/-- A value is told to be of the wrong type, unless it is a number that there is not, of which
nothing is told. -/
theorem told_of_mismatch (found : Toml.Value) (expected : String) :
    (Unreadable found ∧ ∃ unnamed,
      Mismatch found expected (.noSuchNumber found unnamed) ∧
        (SchemaError.noSuchNumber found unnamed).message? = none) ∨
    (¬Unreadable found ∧ ∃ named name,
      Mismatch found expected (.wrongType found expected named) ∧
        (SchemaError.wrongType found expected named).message? =
          some ("invalid type: " ++ name ++ ", expected " ++ expected)) := by
  obtain ⟨cause, mismatch⟩ := exists_mismatch found expected
  cases mismatch with
  | wrongType readable named =>
    exact .inr ⟨readable, named, _, .wrongType readable named, rfl⟩
  | noSuchNumber unreadable unnamed =>
    exact .inl ⟨unreadable, unnamed, .noSuchNumber unreadable unnamed, rfl⟩

/-- A value that is no text is refused as one. -/
theorem textOf_of_ne {value : Toml.Value} (other : ∀ text, value ≠ .string text) :
    textOf value = .error (.ofMismatch value "a string") := by
  cases value with
  | string text => exact absurd rfl (other text)
  | integer _ | illegible | float _ | boolean _ | dateTime | array _ | table _ => rfl

/-- A list of texts is one. -/
theorem mapM_textOf_strings (texts : List String) :
    (texts.map Toml.Value.string).mapM textOf = .ok texts := by
  induction texts with
  | nil => rfl
  | cons text texts ih =>
    rw [List.map_cons, List.mapM_cons, ih]
    rfl

/-- A list with an item that is no text is refused for the first such item. -/
theorem mapM_textOf_of_item (before : List String) {item : Toml.Value}
    (other : ∀ text, item ≠ .string text) (after : List Toml.Value) :
    (before.map Toml.Value.string ++ item :: after).mapM textOf =
      .error (.ofMismatch item "a string") := by
  induction before with
  | nil =>
    rw [List.map_nil, List.nil_append, List.mapM_cons, textOf_of_ne other]
    rfl
  | cons text before ih =>
    rw [List.map_cons, List.cons_append, List.mapM_cons, ih]
    rfl

/-- A value that is no list is refused as one. -/
theorem textsOf_of_ne {value : Toml.Value} (other : ∀ items, value ≠ .array items) :
    textsOf value = .error (.ofMismatch value "a sequence") := by
  cases value with
  | array items => exact absurd rfl (other items)
  | integer _ | illegible | float _ | boolean _ | dateTime | string _ | table _ => rfl

/-- The items of a list are texts, or one is the first that is none. -/
theorem texts_or_item (items : List Toml.Value) :
    (∃ texts : List String, items = texts.map .string) ∨
      ∃ (before : List String) (item : Toml.Value) (after : List Toml.Value),
        items = before.map .string ++ item :: after ∧ ∀ text, item ≠ .string text := by
  induction items with
  | nil => exact .inl ⟨[], rfl⟩
  | cons item items ih =>
    by_cases isText : ∃ text, item = .string text
    · obtain ⟨text, rfl⟩ := isText
      rcases ih with ⟨texts, rfl⟩ | ⟨before, item, after, rfl, other⟩
      · exact .inl ⟨text :: texts, rfl⟩
      · exact .inr ⟨text :: before, item, after, rfl, other⟩
    · exact .inr ⟨[], item, items, rfl, fun text same => isText ⟨text, same⟩⟩

/-- Every entry fits or offends. -/
theorem fits_or_offends (entry : String × Toml.Value) :
    Fits entry ∨ ∃ cause, Offends entry cause := by
  obtain ⟨name, value⟩ := entry
  by_cases text : name = "java_home" ∨ name = "jvmargs"
  · by_cases isText : ∃ text, value = .string text
    · obtain ⟨content, rfl⟩ := isText
      rcases text with rfl | rfl
      · exact .inl (.javaHome content)
      · exact .inl (.jvmArguments content)
    · obtain ⟨cause, mismatch⟩ := exists_mismatch value "a string"
      exact .inr ⟨cause, .text text (fun content same => isText ⟨content, same⟩) mismatch⟩
  · by_cases path : name = "search_path"
    · subst path
      by_cases isList : ∃ items, value = .array items
      · obtain ⟨items, rfl⟩ := isList
        rcases texts_or_item items with ⟨texts, rfl⟩ | ⟨before, item, after, rfl, other⟩
        · exact .inl (.searchPath texts)
        · obtain ⟨cause, mismatch⟩ := exists_mismatch item "a string"
          exact .inr ⟨cause, .item other mismatch⟩
      · obtain ⟨cause, mismatch⟩ := exists_mismatch value "a sequence"
        exact .inr ⟨cause, .list (fun items same => isList ⟨items, same⟩) mismatch⟩
    · rw [not_or] at text
      exact .inr ⟨_, .foreign text.1 text.2 path⟩

/-- The value of the Java installation is read as a text. -/
theorem withEntry_javaHome (settings : Settings) (value : Toml.Value) :
    withEntry settings ("java_home", value) =
      (textOf value).map fun text => { settings with javaHome := some text } := rfl

/-- The value of the extra arguments is read as a text. -/
theorem withEntry_jvmArguments (settings : Settings) (value : Toml.Value) :
    withEntry settings ("jvmargs", value) =
      (textOf value).map fun text => { settings with jvmArguments := some text } := rfl

/-- The value of the search path is read as a list of texts. -/
theorem withEntry_searchPath (settings : Settings) (value : Toml.Value) :
    withEntry settings ("search_path", value) =
      (textsOf value).map fun texts => { settings with searchPath := some texts } := rfl

/-- An entry that offends is refused for its reason. -/
theorem Offends.withEntry {entry : String × Toml.Value} {cause : SchemaError}
    (offends : Offends entry cause) (settings : Settings) :
    withEntry settings entry = .error cause := by
  cases offends with
  | foreign home arguments path =>
    rw [Settings.withEntry, if_neg home, if_neg arguments, if_neg path]
  | text known other mismatch =>
    rcases known with rfl | rfl
    · rw [withEntry_javaHome, textOf_of_ne other, mismatch_iff.1 mismatch]
      rfl
    · rw [withEntry_jvmArguments, textOf_of_ne other, mismatch_iff.1 mismatch]
      rfl
  | list other mismatch =>
    rw [withEntry_searchPath, textsOf_of_ne other, mismatch_iff.1 mismatch]
    rfl
  | item other mismatch =>
    rw [withEntry_searchPath, textsOf, mapM_textOf_of_item _ other, mismatch_iff.1 mismatch]
    rfl

/-- An entry that fits is laid over the settings before it. -/
theorem Fits.exists_layer {entry : String × Toml.Value} (fits : Fits entry) :
    ∃ layer, Told [entry] layer ∧
      ∀ settings, withEntry settings entry = .ok (settings.overlaid layer) := by
  cases fits with
  | javaHome text =>
    refine ⟨{ unset with javaHome := some text }, ?_, fun settings => rfl⟩
    constructor <;> constructor <;> simp [unset]
  | jvmArguments text =>
    refine ⟨{ unset with jvmArguments := some text }, ?_, fun settings => rfl⟩
    constructor <;> constructor <;> simp [unset]
  | searchPath texts =>
    refine ⟨{ unset with searchPath := some texts }, ?_, fun settings => ?_⟩
    · constructor <;> constructor <;> simp [unset]
    · rw [withEntry_searchPath, textsOf, mapM_textOf_strings]
      rfl

/-- An entry that fits does not offend. -/
theorem Fits.not_offends {entry : String × Toml.Value} (fits : Fits entry) (cause : SchemaError) :
    ¬Offends entry cause := by
  intro offends
  obtain ⟨layer, _, accepted⟩ := fits.exists_layer
  have both := (accepted unset).symm.trans (offends.withEntry unset)
  cases both

/-- No table tells anything of a setting that is not set. -/
theorem told_nil : Told [] unset := by
  constructor <;> constructor <;> simp [unset]

/-- One more entry with a new name tells of a setting what it did before, or what the entry does. -/
theorem Tells.append {α : Type} {before : Toml.Table} {entry : String × Toml.Value} {name : String}
    {shape : α → Toml.Value} {below top : Option α} (tells : Tells before name shape below)
    (here : Tells [entry] name shape top) (fresh : entry.1 ∉ before.map Prod.fst) :
    Tells (before ++ [entry]) name shape (top.or below) where
  present value member := by
    rcases List.mem_append.1 member with earlier | last
    · obtain ⟨content, same, set⟩ := tells.present value earlier
      have other : name ∉ [entry].map Prod.fst := by
        intro inside
        obtain rfl := List.mem_singleton.1 inside
        exact fresh (List.mem_map.2 ⟨_, earlier, rfl⟩)
      exact ⟨content, same, by rw [here.absent other, Option.none_or, set]⟩
    · obtain ⟨content, same, set⟩ := here.present value last
      exact ⟨content, same, by rw [set, Option.some_or]⟩
  absent missing := by
    rw [List.map_append, List.mem_append, not_or] at missing
    rw [here.absent missing.2, tells.absent missing.1, Option.none_or]

/-- Settings with those of one more entry laid over them are what the longer table tells. -/
theorem Told.append {before : Toml.Table} {entry : String × Toml.Value} {settings layer : Settings}
    (told : Told before settings) (here : Told [entry] layer)
    (fresh : entry.1 ∉ before.map Prod.fst) :
    Told (before ++ [entry]) (settings.overlaid layer) where
  javaHome := told.javaHome.append here.javaHome fresh
  jvmArguments := told.jvmArguments.append here.jvmArguments fresh
  searchPath := told.searchPath.append here.searchPath fresh

/-- Entries with different names are read to the end, where all of them fit, or up to the first that
offends. -/
theorem foldlM_withEntry (entries : Toml.Table) {before : Toml.Table} {settings : Settings}
    (distinct : ((before ++ entries).map Prod.fst).Nodup) (told : Told before settings) :
    (∃ found, entries.foldlM withEntry settings = .ok found ∧ (∀ entry ∈ entries, Fits entry) ∧
      Told (before ++ entries) found) ∨
    ∃ front entry back cause, entries = front ++ entry :: back ∧ (∀ other ∈ front, Fits other) ∧
      Offends entry cause ∧ entries.foldlM withEntry settings = .error cause := by
  induction entries generalizing before settings with
  | nil =>
    rw [List.append_nil]
    exact .inl ⟨settings, rfl, by simp, told⟩
  | cons entry rest ih =>
    rcases fits_or_offends entry with fits | ⟨cause, offends⟩
    · obtain ⟨layer, here, accepted⟩ := fits.exists_layer
      have fresh : entry.1 ∉ before.map Prod.fst := by
        rw [List.map_append, List.map_cons, List.nodup_append] at distinct
        intro earlier
        exact distinct.2.2 _ earlier _ List.mem_cons_self rfl
      have step : (entry :: rest).foldlM withEntry settings =
          rest.foldlM withEntry (settings.overlaid layer) := by
        rw [List.foldlM_cons, accepted]
        rfl
      rw [List.append_cons] at distinct ⊢
      rw [step]
      rcases ih distinct (told.append here fresh) with
        ⟨found, read, others, all⟩ | ⟨front, later, back, cause, rfl, others, offends, read⟩
      · exact .inl ⟨found, read, List.forall_mem_cons.2 ⟨fits, others⟩, all⟩
      · exact .inr ⟨entry :: front, later, back, cause, rfl,
          List.forall_mem_cons.2 ⟨fits, others⟩, offends, read⟩
    · refine .inr ⟨[], entry, rest, cause, rfl, by simp, offends, ?_⟩
      rw [List.foldlM_cons, offends.withEntry]
      rfl

/-- Ordering a table leaves its entries what they are. -/
theorem perm_ordered (table : Toml.Table) : (ordered table).Perm table := List.mergeSort_perm _ _

/-- In an ordered table no entry has a lesser name than one before it. -/
theorem pairwise_ordered (table : Toml.Table) :
    (ordered table).Pairwise fun first second => first.1 ≤ second.1 := by
  have sorted : (ordered table).Pairwise fun first second =>
      decide (first.1 ≤ second.1) = true :=
    List.pairwise_mergeSort (fun _ _ _ => by simpa using String.le_trans)
      (fun first second => by simpa using String.le_total first.1 second.1) table
  exact sorted.imp of_decide_eq_true

/-- The order of the entries makes no difference to what a table tells. -/
theorem Tells.of_perm {α : Type} {first second : Toml.Table} {name : String}
    {shape : α → Toml.Value} {setting : Option α} (tells : Tells first name shape setting)
    (perm : first.Perm second) : Tells second name shape setting where
  present value member := tells.present value (perm.mem_iff.2 member)
  absent missing := tells.absent fun inside => missing ((perm.map Prod.fst).mem_iff.1 inside)

section

variable {table : Toml.Table} {cause : SchemaError}

/-- A table with different names holds settings where all entries fit, and is otherwise refused for
the first that offends. -/
theorem ofTable_cases (distinct : (table.map Prod.fst).Nodup) :
    (∃ found, ofTable table = .ok found ∧ (∀ entry ∈ table, Fits entry) ∧ Told table found) ∨
      ∃ cause, ofTable table = .error cause ∧ FirstOffence table cause := by
  have perm := perm_ordered table
  have apart : (([] ++ ordered table).map Prod.fst).Nodup :=
    (perm.map Prod.fst).nodup_iff.2 distinct
  rcases foldlM_withEntry (ordered table) apart told_nil with
    ⟨found, read, fits, told⟩ | ⟨front, entry, back, cause, split, fits, offends, read⟩
  · refine .inl ⟨found, read, fun entry member => fits entry (perm.mem_iff.2 member), ?_⟩
    exact ⟨told.javaHome.of_perm perm, told.jvmArguments.of_perm perm, told.searchPath.of_perm perm⟩
  · have member : entry ∈ ordered table := by
      rw [split]
      exact List.mem_append_right front List.mem_cons_self
    have order := pairwise_ordered table
    rw [split, List.pairwise_append, List.pairwise_cons] at order
    refine .inr ⟨cause, read, entry, perm.mem_iff.1 member, offends, fun other inside less => ?_⟩
    -- What is less than the offending entry stands before it.
    rw [← perm.mem_iff, split] at inside
    rcases List.mem_append.1 inside with earlier | later
    · exact fits other earlier
    · have above : entry.1 ≤ other.1 := by
        rcases List.mem_cons.1 later with rfl | later
        · exact String.le_refl _
        · exact order.2.1.1 other later
      exact absurd less (String.not_lt.2 above)

/-- An entry has one reason to be refused. -/
theorem Offends.unique {entry : String × Toml.Value} {other : SchemaError}
    (first : Offends entry cause) (second : Offends entry other) : cause = other := by
  have same := (first.withEntry unset).symm.trans (second.withEntry unset)
  cases same
  rfl

/-- A table with different names has one first offence. -/
theorem FirstOffence.unique (distinct : (table.map Prod.fst).Nodup) {other : SchemaError}
    (first : FirstOffence table cause) (second : FirstOffence table other) : cause = other := by
  obtain ⟨entry, member, offends, least⟩ := first
  obtain ⟨entry', member', offends', least'⟩ := second
  have above : entry.1 ≤ entry'.1 := String.not_lt.1 fun less =>
    (least entry' member' less).not_offends _ offends'
  have below : entry'.1 ≤ entry.1 := String.not_lt.1 fun less =>
    (least' entry member less).not_offends _ offends
  obtain rfl := List.inj_on_of_nodup_map distinct member member' (String.le_antisymm above below)
  exact offends.unique offends'

/-- A table with an offence has an entry that does not fit. -/
theorem FirstOffence.exists_not_fits (offence : FirstOffence table cause) :
    ∃ entry ∈ table, ¬Fits entry := by
  obtain ⟨entry, member, offends, _⟩ := offence
  exact ⟨entry, member, fun fits => fits.not_offends _ offends⟩

/-- A table is refused for its first offence. -/
theorem ofTable_eq_error_iff (distinct : (table.map Prod.fst).Nodup) :
    ofTable table = .error cause ↔ FirstOffence table cause := by
  rcases ofTable_cases distinct with ⟨found, read, fits, _⟩ | ⟨reason, read, offence⟩
  · rw [read]
    refine iff_of_false (by simp) fun offence => ?_
    obtain ⟨entry, member, offends⟩ := offence.exists_not_fits
    exact offends (fits entry member)
  · rw [read, Except.error.injEq]
    exact ⟨fun same => same ▸ offence, offence.unique distinct⟩

/-- A table holds settings where all its entries fit. -/
theorem exists_ofTable_eq_ok_iff (distinct : (table.map Prod.fst).Nodup) :
    (∃ found, ofTable table = .ok found) ↔ ∀ entry ∈ table, Fits entry := by
  rcases ofTable_cases distinct with ⟨found, read, fits, _⟩ | ⟨reason, read, offence⟩
  · exact iff_of_true ⟨found, read⟩ fits
  · rw [read]
    refine iff_of_false (by simp) fun fits => ?_
    obtain ⟨entry, member, offends⟩ := offence.exists_not_fits
    exact offends (fits entry member)

/-- The settings in a table are what it tells. -/
theorem told_of_ofTable (distinct : (table.map Prod.fst).Nodup) {found : Settings}
    (read : ofTable table = .ok found) : Told table found := by
  rcases ofTable_cases distinct with ⟨other, accepted, _, told⟩ | ⟨reason, refused, _⟩
  · obtain rfl := Except.ok.inj (read.symm.trans accepted)
    exact told
  · cases read.symm.trans refused

end

/-- Loading a file with a document is reading its table. -/
theorem loadFile_of_parsed {tree : FileTree} {path text : String} {bytes : List UInt8}
    {table : Toml.Table} (read : tree.read path = .ok bytes)
    (legible : Text.Utf8.decode? bytes = some text) (parsed : Toml.parse? text = some table) :
    loadFile tree path =
      ((ofTable table).mapError fun cause => .malformed path (.schema cause)).map some := by
  rw [loadFile, if_pos (pathExists_of_read read), read]
  simp only [ofBytes, legible, ofText, parsed]
  cases ofTable table <;> rfl

/-- A file with a document holds settings exactly where every entry of its table fits, and they are
what the table tells. Otherwise it is refused, under its path, for the entry with the least name
that offends: a name that no setting has is told as unknown, whatever its value is, and a value of
the wrong type is told as that, unless it is a number that there is not. -/
theorem loadFile_schema_exact {tree : FileTree} {path text : String} {bytes : List UInt8}
    {table : Toml.Table} (read : tree.read path = .ok bytes)
    (legible : Text.Utf8.decode? bytes = some text) (parsed : Toml.parse? text = some table) :
    ((∃ found, loadFile tree path = .ok (some found)) ↔ ∀ entry ∈ table, Fits entry) ∧
    (∀ found, loadFile tree path = .ok (some found) → Told table found) ∧
    ((¬∀ entry ∈ table, Fits entry) ↔
      ∃ cause, loadFile tree path = .error (.malformed path (.schema cause))) ∧
    (∀ cause, loadFile tree path = .error (.malformed path (.schema cause)) ↔
      FirstOffence table cause) ∧
    (∀ name, (SchemaError.unknownName name).message? = some ("unknown field \x60" ++ name ++
      "\x60, expected one of \x60java_home\x60, \x60jvmargs\x60, \x60search_path\x60")) ∧
    ∀ found expected,
      (Unreadable found ∧ ∃ unnamed,
        Mismatch found expected (.noSuchNumber found unnamed) ∧
          (SchemaError.noSuchNumber found unnamed).message? = none) ∨
      (¬Unreadable found ∧ ∃ named name,
        Mismatch found expected (.wrongType found expected named) ∧
          (SchemaError.wrongType found expected named).message? =
            some ("invalid type: " ++ name ++ ", expected " ++ expected)) := by
  have distinct := Toml.nodup_names_of_parse? parsed
  have accepts (found : Settings) :
      loadFile tree path = .ok (some found) ↔ ofTable table = .ok found := by
    rw [loadFile_of_parsed read legible parsed]
    cases ofTable table <;> simp [Except.mapError, Except.map]
  have refuses (cause : SchemaError) :
      loadFile tree path = .error (.malformed path (.schema cause)) ↔
        ofTable table = .error cause := by
    rw [loadFile_of_parsed read legible parsed]
    cases ofTable table <;> simp [Except.mapError, Except.map]
  simp only [accepts, refuses]
  refine ⟨exists_ofTable_eq_ok_iff distinct, fun found => told_of_ofTable distinct, ?_,
    fun cause => ofTable_eq_error_iff distinct, fun _ => rfl, told_of_mismatch⟩
  rw [← exists_ofTable_eq_ok_iff distinct]
  cases ofTable table <;> simp

/-- A tree with one configuration file. -/
def withFileAt (name text : String) : FileTree :=
  FileTree.empty.put [name] (.file (Text.Utf8.encode text) false)

/-- Two entries offend, and the file is refused for the second item of the one with the lesser name,
although it stands behind the other. -/
theorem loadFile_schema_exact_two :
    let tree := withFileAt "c.toml" "z=1\nsearch_path=['',0]"
    let table : Toml.Table :=
      [("z", .integer 1), ("search_path", .array [.string "", .integer 0])]
    tree.read "c.toml" = .ok (Text.Utf8.encode "z=1\nsearch_path=['',0]") ∧
      Text.Utf8.decode? (Text.Utf8.encode "z=1\nsearch_path=['',0]") =
        some "z=1\nsearch_path=['',0]" ∧
      Toml.parse? "z=1\nsearch_path=['',0]" = some table ∧
      ∃ named, loadFile tree "c.toml" =
        .error (.malformed "c.toml" (.schema (.wrongType (.integer 0) "a string" named))) := by
  intro tree table
  have read : tree.read "c.toml" = .ok (Text.Utf8.encode "z=1\nsearch_path=['',0]") := rfl
  have legible : Text.Utf8.decode? (Text.Utf8.encode "z=1\nsearch_path=['',0]") =
      some "z=1\nsearch_path=['',0]" := by decide
  have letters : "z=1\nsearch_path=['',0]".toList = [
      'z', '=', '1', '\n', 's', 'e', 'a', 'r', 'c', 'h', '_', 'p', 'a', 't', 'h', '=',
      '[', '\'', '\'', ',', '0', ']'] := by decide
  have parsed : Toml.parse? "z=1\nsearch_path=['',0]" = some table := by
    rw [Toml.parse?, letters]
    rfl
  have named : (SchemaError.valueName? (.integer 0)).isSome := by decide
  have readable : ¬Unreadable (.integer 0) := by
    rw [← valueName?_eq_none_iff]
    exact Option.isSome_iff_ne_none.1 named
  have offends : Offends ("search_path", .array ([""].map .string ++ [.integer 0]))
      (.wrongType (.integer 0) "a string" named) :=
    .item (fun _ same => nomatch same) (.wrongType readable named)
  have offence : FirstOffence table (.wrongType (.integer 0) "a string" named) := by
    refine ⟨_, List.mem_cons_of_mem _ List.mem_cons_self, offends, fun other member less => ?_⟩
    simp only [table, List.mem_cons, List.not_mem_nil, or_false] at member
    rcases member with rfl | rfl
    · exact absurd less (by decide)
    · exact absurd less (by decide)
  exact ⟨read, legible, parsed, named,
    ((loadFile_schema_exact read legible parsed).2.2.2.1 _).2 offence⟩

/-- An integer that fits no word stands where a text is expected. The file is refused for it, but
not as a value of the wrong type. -/
theorem loadFile_too_large :
    let text := "jvmargs=340282366920938463463374607431768211456"
    let number : Toml.Value := .integer 340282366920938463463374607431768211456
    Toml.parse? text = some [("jvmargs", number)] ∧
      ∃ unnamed, loadFile (withFileAt "c.toml" text) "c.toml" =
          .error (.malformed "c.toml" (.schema (.noSuchNumber number unnamed))) ∧
        ¬∃ told, (SchemaError.noSuchNumber number unnamed).message? =
          some ("invalid type: " ++ told) := by
  intro text number
  have letters : text.toList = [
      'j', 'v', 'm', 'a', 'r', 'g', 's', '=', '3', '4', '0', '2', '8', '2', '3', '6', '6', '9', '2',
      '0', '9', '3', '8', '4', '6', '3', '4', '6', '3', '3', '7', '4', '6', '0', '7', '4', '3', '1',
      '7', '6', '8', '2', '1', '1', '4', '5', '6'] := by decide
  have parsed : Toml.parse? text = some [("jvmargs", number)] := by
    rw [Toml.parse?, letters]
    rfl
  have read : (withFileAt "c.toml" text).read "c.toml" = .ok (Text.Utf8.encode text) := rfl
  have legible : Text.Utf8.decode? (Text.Utf8.encode text) = some text := by decide
  have beyond : Unreadable number := .integer (.inr (by decide))
  have unnamed := valueName?_eq_none_iff.2 beyond
  have other : ∀ text, number ≠ .string text := by simp [number]
  have refused : ofTable [("jvmargs", number)] = .error (.noSuchNumber number unnamed) := by
    have first : withEntry unset ("jvmargs", number) = .error (.noSuchNumber number unnamed) :=
      Offends.withEntry (.text (.inr rfl) other (.noSuchNumber beyond unnamed)) unset
    simp only [ofTable, ordered, List.mergeSort_singleton, List.foldlM_cons, first]
    rfl
  refine ⟨parsed, unnamed, ?_, by simp [SchemaError.message?]⟩
  rw [loadFile_of_parsed read legible parsed, refused]
  rfl

end JavaLauncher.Settings
