import JavaLauncher.Identity
import JavaLauncher.Proofs.Text.Lowering

/-!
# What the path of an executable tells

A path over the limit is refused, whatever is in it; so is one without a separator. Every other path
is cut behind its last separator, of either kind, and there is only one way to do so: `Located` says
this as a relation between a path and what it comes to, and that relation is the graph of the
function (`ofPath_eq_iff`). The base name is the lower case of what stands before the first dot of
the file name. The lower-case mapping makes no character below `a`, so the base name has no dot and
no separator, and it is in lower case for good (`ofPath_exact`).
-/
namespace JavaLauncher

namespace Identity

/-- The separators are the slash and the backslash. -/
theorem isSeparator_iff {c : Char} : isSeparator c = true ↔ c = '/' ∨ c = '\\' := by
  simp [isSeparator]

/-- A text is free of separators when it holds neither of them. -/
theorem forall_isSeparator_eq_false_iff {text : List Char} :
    (∀ c ∈ text, isSeparator c = false) ↔ '/' ∉ text ∧ '\\' ∉ text := by
  constructor
  · intro plain
    exact ⟨fun slash => absurd (plain _ slash) (by decide),
      fun backslash => absurd (plain _ backslash) (by decide)⟩
  · rintro ⟨slash, backslash⟩ c member
    rw [← Bool.not_eq_true, isSeparator_iff]
    rintro (rfl | rfl)
    · exact slash member
    · exact backslash member

/-- The directory of a path with a separator ends with one. -/
theorem exists_directoryPart_eq {path : List Char} (separated : path.any isSeparator = true) :
    ∃ front separator, directoryPart path = front ++ [separator] ∧
      isSeparator separator = true := by
  have present : path.reverse.dropWhile (!isSeparator ·) ≠ [] := by
    intro none
    obtain ⟨c, member, separates⟩ := List.any_eq_true.1 separated
    have plain := List.dropWhile_eq_nil_iff.1 none c (List.mem_reverse.2 member)
    rw [separates] at plain
    contradiction
  have stopped := List.head_dropWhile_not (!isSeparator ·) present
  refine ⟨(path.reverse.dropWhile (!isSeparator ·)).tail.reverse, _, ?_, by simpa using stopped⟩
  rw [← List.reverse_cons, List.cons_head_tail]
  rfl

/-- A path is cut into a directory and a name in one way only. -/
theorem parts_append {front name : List Char} {separator : Char}
    (separates : isSeparator separator = true) (plain : ∀ c ∈ name, isSeparator c = false) :
    directoryPart (front ++ [separator] ++ name) = front ++ [separator] ∧
      namePart (front ++ [separator] ++ name) = name := by
  have passed : ∀ c ∈ name.reverse, (!isSeparator c) = true := by
    intro c member
    rw [plain c (List.mem_reverse.1 member)]
    rfl
  have reversed : (front ++ [separator] ++ name).reverse =
      name.reverse ++ separator :: front.reverse := by simp
  have stops : (!isSeparator separator) = false := by rw [separates]; rfl
  constructor
  · rw [directoryPart, reversed, List.dropWhile_append_of_pos passed,
      List.dropWhile_cons_of_neg (by rw [stops]; decide), List.reverse_cons, List.reverse_reverse]
  · rw [namePart, reversed, List.takeWhile_append_of_pos passed,
      List.takeWhile_cons_of_neg (by rw [stops]; decide), List.append_nil, List.reverse_reverse]

end Identity

/-- What the path of an executable comes to. -/
inductive Located (path : String) : Except PathError Identity → Prop where
  /-- The path is over the limit, with or without a separator. -/
  | tooLong : 1024 ≤ path.utf8ByteSize →
      Located path (.error (.tooLong path.utf8ByteSize 1023))
  /-- The path is within the limit and has no separator. -/
  | bareName : path.utf8ByteSize < 1024 → '/' ∉ path.toList → '\\' ∉ path.toList →
      Located path (.error (.bareName path))
  /-- The path is within the limit and is a directory, which ends with a separator, and a name
  without any. -/
  | installed {identity : Identity} {separator : Char} : path.utf8ByteSize < 1024 →
      identity.directory ++ identity.program = path →
      identity.directory.toList.getLast? = some separator → separator = '/' ∨ separator = '\\' →
      '/' ∉ identity.program.toList → '\\' ∉ identity.program.toList →
      Located path (.ok identity)

namespace Identity

/-- Every path comes to what its bytes and separators say. -/
theorem located_ofPath (path : String) : Located path (ofPath path) := by
  unfold ofPath
  split
  · rename_i long
    exact .tooLong long
  rename_i short
  have fits : path.utf8ByteSize < 1024 := Nat.lt_succ_of_le (Nat.le_of_not_lt short)
  split
  · rename_i separated
    obtain ⟨front, separator, ends, separates⟩ := exists_directoryPart_eq separated
    have plain := forall_isSeparator_eq_false_iff.1 fun c (member : c ∈ namePart path.toList) =>
      isSeparator_of_mem_namePart member
    have last : (String.ofList (directoryPart path.toList)).toList.getLast? =
        some separator := by
      rw [String.toList_ofList, ends]
      exact List.getLast?_concat
    refine .installed fits ?_ last (isSeparator_iff.1 separates) ?_ ?_
    · rw [← String.ofList_append, directoryPart_append_namePart, String.ofList_toList]
    · rw [String.toList_ofList]
      exact plain.1
    · rw [String.toList_ofList]
      exact plain.2
  · rename_i bare
    rw [List.any_eq_true, not_exists] at bare
    have plain : ∀ c ∈ path.toList, isSeparator c = false := by
      intro c member
      exact Bool.eq_false_iff.2 fun separates => bare c ⟨member, separates⟩
    obtain ⟨slash, backslash⟩ := forall_isSeparator_eq_false_iff.1 plain
    exact .bareName fits slash backslash

/-- What the bytes and separators of a path say is what the path comes to. -/
theorem ofPath_eq_of_located {path : String} {outcome : Except PathError Identity}
    (located : Located path outcome) : ofPath path = outcome := by
  cases located with
  | tooLong long => exact if_pos long
  | bareName fits slash backslash =>
    have plain := forall_isSeparator_eq_false_iff.2 ⟨slash, backslash⟩
    have bare : ¬path.toList.any isSeparator = true := by
      rw [List.any_eq_true]
      rintro ⟨c, member, separates⟩
      rw [plain c member] at separates
      contradiction
    have short : ¬pathLimit < path.utf8ByteSize := Nat.not_lt.2 (Nat.le_of_lt_succ fits)
    rw [ofPath, if_neg short, if_neg bare]
  | @installed identity separator fits whole last separates slash backslash =>
    have plain := forall_isSeparator_eq_false_iff.2 ⟨slash, backslash⟩
    obtain ⟨front, ends⟩ := List.getLast?_eq_some_iff.1 last
    have characters : path.toList = front ++ [separator] ++ identity.program.toList := by
      rw [← whole, String.toList_append, ends]
    have short : ¬pathLimit < path.utf8ByteSize := Nat.not_lt.2 (Nat.le_of_lt_succ fits)
    have separated : path.toList.any isSeparator = true := by
      rw [List.any_eq_true]
      exact ⟨separator, by rw [characters]; simp, isSeparator_iff.2 separates⟩
    have parts : directoryPart path.toList = front ++ [separator] ∧
        namePart path.toList = identity.program.toList := by
      rw [characters]
      exact parts_append (isSeparator_iff.2 separates) plain
    rw [ofPath, if_neg short, if_pos separated, parts.1, parts.2, ← ends,
      String.ofList_toList, String.ofList_toList]

/-- A path comes to what its bytes and separators say, and to nothing else. -/
theorem ofPath_eq_iff {path : String} {outcome : Except PathError Identity} :
    ofPath path = outcome ↔ Located path outcome := by
  constructor
  · rintro rfl
    exact located_ofPath path
  · exact ofPath_eq_of_located

/-- The file name is the stem and what stands from its first dot on. -/
theorem exists_program_eq (identity : Identity) :
    ∃ rest : String, identity.program = identity.stem ++ rest ∧ '.' ∉ identity.stem.toList ∧
      (rest = "" ∨ rest.toList.head? = some '.') := by
  have split : identity.program.toList.takeWhile (· != '.') ++
      identity.program.toList.dropWhile (· != '.') = identity.program.toList :=
    List.takeWhile_append_dropWhile
  refine ⟨String.ofList (identity.program.toList.dropWhile (· != '.')), ?_, ?_, ?_⟩
  · rw [stem, ← String.ofList_append, split, String.ofList_toList]
  · intro dot
    rw [stem, String.toList_ofList] at dot
    have passed := List.all_eq_true.1 List.all_takeWhile '.' dot
    exact absurd passed (by decide)
  · rw [String.toList_ofList]
    have stopped := List.head?_dropWhile_not (· != '.') identity.program.toList
    cases found : identity.program.toList.dropWhile (· != '.') with
    | nil => exact .inl rfl
    | cons c later =>
      rw [found] at stopped
      have dot : c = '.' := by simpa using stopped
      right
      rw [dot]
      rfl

/-- The stem is a part of the file name. -/
theorem mem_program_of_mem_stem {identity : Identity} {c : Char}
    (member : c ∈ identity.stem.toList) : c ∈ identity.program.toList := by
  obtain ⟨rest, whole, _⟩ := exists_program_eq identity
  rw [whole, String.toList_append]
  exact List.mem_append_left _ member

/-- The base name of a launcher whose file name is free of separators is free of dots and
separators. -/
theorem baseName_free {identity : Identity} (slash : '/' ∉ identity.program.toList)
    (backslash : '\\' ∉ identity.program.toList) :
    '.' ∉ identity.baseName.toList ∧ '/' ∉ identity.baseName.toList ∧
      '\\' ∉ identity.baseName.toList := by
  -- All three are below `a`, where the lower-case mapping makes nothing.
  have fromStem {c : Char} (low : c.toNat < 0x61) (member : c ∈ identity.baseName.toList) :
      c ∈ identity.stem.toList := Text.mem_of_mem_lowerCase member low
  obtain ⟨_, _, dot, _⟩ := exists_program_eq identity
  refine ⟨?_, ?_, ?_⟩
  · intro member
    exact dot (fromStem (by decide) member)
  · intro member
    exact slash (mem_program_of_mem_stem (fromStem (by decide) member))
  · intro member
    exact backslash (mem_program_of_mem_stem (fromStem (by decide) member))

/-- The file name of an accepted path is free of separators. -/
theorem program_free {path : String} {identity : Identity} (accepted : ofPath path = .ok identity) :
    '/' ∉ identity.program.toList ∧ '\\' ∉ identity.program.toList := by
  cases ofPath_eq_iff.1 accepted with
  | installed _ _ _ _ slash backslash => exact ⟨slash, backslash⟩

/-- A path comes to exactly what its bytes and separators say. For every accepted path the base name
is the lower case of the file name up to its first dot, has no dot and no separator, and is its own
lower case. -/
theorem ofPath_exact (path : String) :
    (∀ outcome, ofPath path = outcome ↔ Located path outcome) ∧
      ∀ identity, ofPath path = .ok identity →
        (∃ stem rest : String, identity.program = stem ++ rest ∧ '.' ∉ stem.toList ∧
          (rest = "" ∨ rest.toList.head? = some '.') ∧
          identity.baseName = Text.lowerCase stem) ∧
        ('.' ∉ identity.baseName.toList ∧ '/' ∉ identity.baseName.toList ∧
          '\\' ∉ identity.baseName.toList) ∧
        Text.lowerCase identity.baseName = identity.baseName := by
  refine ⟨fun _ => ofPath_eq_iff, ?_⟩
  intro identity accepted
  obtain ⟨slash, backslash⟩ := program_free accepted
  obtain ⟨rest, whole, dot, ends⟩ := exists_program_eq identity
  refine ⟨⟨identity.stem, rest, whole, dot, ends, rfl⟩, baseName_free slash backslash, ?_⟩
  exact Text.lowerCase_lowerCase identity.stem

/-- The last separator may be a backslash after slashes, the stem ends at the first of two dots, and
a capital sigma at its end is final. -/
theorem ofPath_exact_sigma :
    ofPath "/opt\\ΟΔΥΣΣΕΥΣ.tar.gz" = .ok ⟨"/opt\\", "ΟΔΥΣΣΕΥΣ.tar.gz"⟩ ∧
      baseName ⟨"/opt\\", "ΟΔΥΣΣΕΥΣ.tar.gz"⟩ = "οδυσσευς" ∧
      Text.lowerCase "οδυσσευς" = "οδυσσευς" := by
  have last : "/opt\\".toList.getLast? = some '\\' := by decide
  have located : Located "/opt\\ΟΔΥΣΣΕΥΣ.tar.gz" (.ok ⟨"/opt\\", "ΟΔΥΣΣΕΥΣ.tar.gz"⟩) :=
    .installed (by decide) (by decide) last (.inr rfl) (by decide) (by decide)
  obtain ⟨graph, accepted⟩ := ofPath_exact "/opt\\ΟΔΥΣΣΕΥΣ.tar.gz"
  have found := (graph _).2 located
  have lower : baseName ⟨"/opt\\", "ΟΔΥΣΣΕΥΣ.tar.gz"⟩ = "οδυσσευς" := by decide +kernel
  have settled := (accepted _ found).2.2
  rw [lower] at settled
  exact ⟨found, lower, settled⟩

end Identity

end JavaLauncher
