import JavaLauncher.Toml.Reader

/-!
# Quoted texts

A text stands between double quotes, with escapes, or between single quotes, as it is. Three
quotes open a text of several lines: a line end right after them is dropped, one or two quotes
may stand before the closing three, and between double quotes a backslash at the end of a line
joins it to the next character that is not blank.
-/
namespace JavaLauncher.Toml

/-- The character with a code point, which must not be a surrogate or out of range. -/
def scalar? (code : Nat) : Option Char :=
  if code.isValidChar then some (Char.ofNat code) else none

/-- The character written as a number of hexadecimal digits. -/
def hexScalar? (digits : List Char) : Option Char :=
  (digits.mapM hexDigit?).bind fun values =>
    scalar? (values.foldl (fun code digit => code * 16 + digit) 0)

/-- The character of an escape, after its backslash. -/
def escape? : Reader Char
  | 'b' :: rest => some ('\x08', rest)
  | 'e' :: rest => some ('\x1b', rest)
  | 'f' :: rest => some ('\x0c', rest)
  | 'n' :: rest => some ('\n', rest)
  | 'r' :: rest => some ('\r', rest)
  | 't' :: rest => some ('\t', rest)
  | '"' :: rest => some ('"', rest)
  | '\\' :: rest => some ('\\', rest)
  | 'x' :: rest => fixed 2 rest
  | 'u' :: rest => fixed 4 rest
  | 'U' :: rest => fixed 8 rest
  | _ => none
where
  /-- A character written with a fixed number of digits. -/
  fixed (count : Nat) (text : List Char) : Option (Char × List Char) :=
    if (text.take count).length = count then
      (hexScalar? (text.take count)).map fun c => (c, text.drop count)
    else none

/-- An escape takes at least one character. -/
theorem escape?_shorter {text rest : List Char} {c : Char} (read : escape? text = some (c, rest)) :
    rest.length < text.length := by
  unfold escape? at read
  split at read
  all_goals first
    | (simp only [Option.some.injEq, Prod.mk.injEq] at read
       obtain ⟨_, rfl⟩ := read
       simp)
    | (simp only [escape?.fixed] at read
       split at read
       · simp only [Option.map_eq_some_iff, Prod.mk.injEq] at read
         obtain ⟨_, _, _, rfl⟩ := read
         simp only [List.length_drop, List.length_cons]
         omega
       · simp at read)
    | simp at read

/-- The rest of a one-line text between double quotes, after the opening one. -/
def basic? (text : List Char) : Option (List Char × List Char) :=
  match text with
  | [] => none
  | '"' :: rest => some ([], rest)
  | '\\' :: rest =>
    match _ : escape? rest with
    | none => none
    | some (c, after) => (basic? after).map fun found => (c :: found.1, found.2)
  | c :: rest =>
    if isPrintable c then (basic? rest).map fun found => (c :: found.1, found.2) else none
termination_by text.length
decreasing_by
  · have shorter := escape?_shorter ‹escape? rest = some (c, after)›
    simp only [List.length_cons]
    omega
  · simp

/-- The rest of a one-line text between single quotes, after the opening one. -/
def literal? : Reader (List Char)
  | [] => none
  | '\'' :: rest => some ([], rest)
  | c :: rest =>
    if isPrintable c then (literal? rest).map fun found => (c :: found.1, found.2) else none

/-- The quotes that end a text of several lines: three, after one or two that belong to it. -/
def closing? (quote : Char) (text : List Char) : Option (List Char × List Char) :=
  let run := (text.takeWhile (· == quote)).length
  if run < 3 then none
  else
    let inside := min (run - 3) 2
    some (List.replicate inside quote, text.drop (inside + 3))

/-- A text without the line end at its front. -/
def dropNewline (text : List Char) : List Char := (newline? text).getD text

/-- The text after a backslash that joins lines: blanks, a line end, and then every blank and
line end. -/
def joined? (text : List Char) : Option (List Char) :=
  (newline? (skipBlanks text)).map (go text.length)
where
  /-- Drops blanks and at most the given number of line ends. -/
  go : Nat → List Char → List Char
    | 0, text => skipBlanks text
    | bound + 1, text =>
      match newline? (skipBlanks text) with
      | some rest => go bound rest
      | none => skipBlanks text

/-- The rest of a text of several lines between double quotes. The number bounds the characters
still to be read. -/
def basicLines? : Nat → Reader (List Char)
  | 0, _ => none
  | _ + 1, [] => none
  | bound + 1, c :: rest =>
    match closing? '"' (c :: rest) with
    | some found => some found
    | none =>
      if c = '\\' then
        match joined? rest with
        | some after => basicLines? bound after
        | none =>
          match escape? rest with
          | some (escaped, after) =>
            (basicLines? bound after).map fun found => (escaped :: found.1, found.2)
          | none => none
      else if isPrintable c || (newline? (c :: rest)).isSome then
        (basicLines? bound rest).map fun found => (c :: found.1, found.2)
      else none

/-- The rest of a text of several lines between single quotes. -/
def literalLines? : Reader (List Char)
  | [] => none
  | c :: rest =>
    match closing? '\'' (c :: rest) with
    | some found => some found
    | none =>
      if isPrintable c || (newline? (c :: rest)).isSome then
        (literalLines? rest).map fun found => (c :: found.1, found.2)
      else none

/-- A text on one line, between quotes of either kind. -/
def quotedLine? : Reader String
  | '"' :: rest => (basic? rest).map fun found => (String.ofList found.1, found.2)
  | '\'' :: rest => (literal? rest).map fun found => (String.ofList found.1, found.2)
  | _ => none

/-- A text between quotes of any kind. -/
def quotedText? : Reader String
  | '"' :: '"' :: '"' :: rest =>
    (basicLines? (rest.length + 1) (dropNewline rest)).map fun found =>
      (String.ofList found.1, found.2)
  | '\'' :: '\'' :: '\'' :: rest =>
    (literalLines? (dropNewline rest)).map fun found => (String.ofList found.1, found.2)
  | text => quotedLine? text

end JavaLauncher.Toml
