import Mathlib.Data.List.Basic
import TaskConsole.Json.Printer
import TaskConsole.Json.Reader

/-!
# Reading what was written

A quoted text is read as the text (`Json.readChars_quoted`), whatever its characters are, and so
an object of texts that was written is read as it was (`Json.read?_compact_object`).  What is
written is one line (`Json.feedless_compact_object`).
-/

namespace TaskConsole.Json

open Number

theorem hexValue?_hexDigit : ∀ n < 16, hexValue? (hexDigit n) = some n
  := by decide

/-- Four digits of which the first two are zeros. -/
theorem hex4?_hexDigit {n : Nat} (h : n < 256) :
  hex4? '0' '0' (hexDigit (n / 16)) (hexDigit (n % 16)) = some n
  := by
  have hzero : hexValue? '0' = some 0 := rfl
  simp only [hex4?, hzero, hexValue?_hexDigit (n / 16) (by omega),
    hexValue?_hexDigit (n % 16) (by omega), bind, Option.bind, pure, Option.some.injEq]
  omega

/-- A character that stands for itself in a quoted text. -/
theorem readChars_plain {c : Char} (hquote : c ≠ '"') (hbackslash : c ≠ '\\')
    (hplain : ¬c.toNat < 0x20) (read rest : List Char) :
  readChars read none true (c :: rest) = readChars (c :: read) none true rest
  := by
  have hself : ¬(c.toNat < 0x20 || c = '\\') = true := by
    simp [hplain, hbackslash]
  rw [readChars]
  · rw [if_neg (by simpa using hself)]
    rfl
  all_goals simp [hquote, hbackslash]

/-- A character of a quoted text is read as what it is. -/
theorem readChars_escape (read : List Char) (c : Char) (rest : List Char) :
  readChars read none true (escape c ++ rest) = readChars (c :: read) none true rest
  := by
  rw [escape]
  split
  · next h => rw [h]; rfl
  split
  · next h => rw [h]; rfl
  split
  · next h => rw [h]; rfl
  split
  · next h => rw [h]; rfl
  split
  · next h => rw [h]; rfl
  split
  · next h => rw [← Char.ofNat_toNat c, h]; rfl
  split
  · next h => rw [← Char.ofNat_toNat c, h]; rfl
  split
  · next h =>
    have hlow : isLowSurrogate c.toNat = false := by
      simp only [isLowSurrogate, Bool.and_eq_false_iff, decide_eq_false_iff_not]
      omega
    have hhigh : isHighSurrogate c.toNat = false := by
      simp only [isHighSurrogate, Bool.and_eq_false_iff, decide_eq_false_iff_not]
      omega
    simp only [List.cons_append, List.nil_append, readChars,
      hex4?_hexDigit (n := c.toNat) (by omega), hlow, hhigh, Char.ofNat_toNat]
  · apply readChars_plain
    all_goals assumption

/-- A quoted text is read as the text. -/
theorem readChars_quoted (s : String) (rest : List Char) :
  readChars [] none true (s.toList.flatMap escape ++ '"' :: rest) = some (some s, rest)
  := by
  have hchars : ∀ cs read : List Char, readChars read none true (cs.flatMap escape ++ '"' :: rest)
      = some (some (String.ofList (read.reverse ++ cs)), rest) := by
    intro cs
    induction cs with
    | nil =>
      intro read
      rw [List.append_nil]
      rfl
    | cons c cs ih =>
      intro read
      rw [List.flatMap_cons, List.append_assoc, readChars_escape, ih, List.reverse_cons,
        List.append_assoc, List.singleton_append]
  rw [hchars, List.reverse_nil, List.nil_append, String.ofList_toList]

/-- Nothing is skipped in front of a quotation mark. -/
theorem skip_quote (rest : List Char) :
  skip ('"' :: rest) = '"' :: rest
  := rfl

/-- The characters of a quoted text. -/
theorem toList_quote (s : String) :
  (quote s).toList = '"' :: (s.toList.flatMap escape ++ ['"'])
  := by
  rw [quote, String.toList_ofList]
  rfl

/-- A quoted text is read as a text. -/
theorem readValue_quote (fuel : Nat) (s : String) (rest : List Char) :
  readValue (fuel + 1) ((quote s).toList ++ rest) = some (ofText s, rest)
  := by
  rw [toList_quote, List.cons_append, List.append_assoc, List.singleton_append, readValue,
    skip_quote]
  simp only [readChars_quoted, Option.map_some]
  rfl

/-- The members of an object of texts. -/
def textMembers (fields : List (String × String)) : List (Option String × Json) :=
  fields.map fun field => (some field.1, ofText field.2)

/-- Reads what follows a member: further members, or the end of the object. -/
def readMore (fuel : Nat) (member : Option String × Json) (rest : List Char) :
    Option (List (Option String × Json) × List Char) :=
  match skip rest with
  | ',' :: rest => (readMembers fuel rest).map fun r => (member :: r.1, r.2)
  | '\x7d' :: rest => some ([member], rest)
  | _ => none

/-- A member of an object of texts is read up to what follows its value. -/
theorem readMembers_field (field : String × String) (rest : List Char) (fuel : Nat) :
  readMembers (fuel + 2) ((quote field.1 ++ ":" ++ quote field.2).toList ++ rest)
    = readMore (fuel + 1) (some field.1, ofText field.2) rest
  := by
  have hvalue : readValue (fuel + 1) ((quote field.2).toList ++ rest)
      = some (ofText field.2, rest) := readValue_quote fuel field.2 rest
  have hchars : (quote field.1 ++ ":" ++ quote field.2).toList ++ rest
      = '"' :: (field.1.toList.flatMap escape
        ++ '"' :: ':' :: ((quote field.2).toList ++ rest)) := by
    simp [toList_quote]
  rw [hchars, readMembers, skip_quote]
  have hcolon : skip (':' :: ((quote field.2).toList ++ rest))
      = ':' :: ((quote field.2).toList ++ rest) := rfl
  simp only [readChars_quoted, hcolon, hvalue]
  rfl

/-- The members of an object of texts, the first of them apart. -/
theorem toList_compactMembers (field next : String × String) (fields : List (String × String)) :
  (compactMembers (textMembers (field :: next :: fields))).toList
    = (quote field.1 ++ ":" ++ quote field.2).toList
      ++ ',' :: (compactMembers (textMembers (next :: fields))).toList
  := by
  have hmembers : compactMembers (textMembers (field :: next :: fields))
      = quote field.1 ++ ":" ++ quote field.2 ++ ","
        ++ compactMembers (textMembers (next :: fields)) := rfl
  rw [hmembers, String.toList_append, String.toList_append, List.append_assoc]
  rfl

/-- The members of an object of texts are read as they were written. -/
theorem readMembers_compact (field : String × String) (fields : List (String × String))
    (rest : List Char) {fuel : Nat} (hfuel : fields.length + 2 ≤ fuel) :
  readMembers fuel ((compactMembers (textMembers (field :: fields))).toList ++ '\x7d' :: rest)
    = some (textMembers (field :: fields), rest)
  := by
  induction fields generalizing field fuel with
  | nil =>
    obtain ⟨fuel, rfl⟩ := Nat.exists_eq_add_of_le' hfuel
    exact readMembers_field field ('\x7d' :: rest) fuel
  | cons next fields ih =>
    have hlength : (next :: fields).length = fields.length + 1 := rfl
    obtain ⟨fuel, rfl⟩ : ∃ less, fuel = less + 2 := Nat.exists_eq_add_of_le' (by omega)
    have hrest : readMembers (fuel + 1)
        ((compactMembers (textMembers (next :: fields))).toList ++ '\x7d' :: rest)
        = some (textMembers (next :: fields), rest) := ih next (by omega)
    have hcomma : skip (',' :: ((compactMembers (textMembers (next :: fields))).toList
          ++ '\x7d' :: rest))
        = ',' :: ((compactMembers (textMembers (next :: fields))).toList ++ '\x7d' :: rest) := rfl
    rw [toList_compactMembers, List.append_assoc, List.cons_append, readMembers_field, readMore,
      hcomma]
    simp only [hrest, Option.map_some]
    rfl

/-- Each member of an object of texts takes a character at least. -/
theorem length_lt_compactMembers (field : String × String) (fields : List (String × String)) :
  fields.length < (compactMembers (textMembers (field :: fields))).toList.length
  := by
  induction fields generalizing field with
  | nil =>
    have hmembers : compactMembers (textMembers [field])
        = quote field.1 ++ ":" ++ quote field.2 := rfl
    rw [hmembers, String.toList_append, String.toList_append, toList_quote]
    exact Nat.zero_lt_succ _
  | cons next fields ih =>
    have hrest := ih next
    rw [toList_compactMembers, List.length_append, List.length_cons, List.length_cons]
    omega

/-- The members of an object of texts begin with a quotation mark. -/
theorem exists_compactMembers_eq (field : String × String) (fields : List (String × String)) :
  ∃ rest, (compactMembers (textMembers (field :: fields))).toList = '"' :: rest
  := by
  cases fields with
  | nil =>
    have hmembers : compactMembers (textMembers [field])
        = quote field.1 ++ ":" ++ quote field.2 := rfl
    rw [hmembers, String.toList_append, String.toList_append, toList_quote]
    exact ⟨_, rfl⟩
  | cons next fields =>
    rw [toList_compactMembers, String.toList_append, String.toList_append, toList_quote]
    exact ⟨_, rfl⟩

/-- The characters of an object of texts. -/
theorem toList_compact_object (members : List (Option String × Json)) :
  (compact (.object members)).toList = '\x7b' :: ((compactMembers members).toList ++ ['\x7d'])
  := by
  rw [compact, String.toList_append, String.toList_append]
  rfl

/-- An object of texts is read as it was written. -/
theorem readValue_object (field : String × String) (fields : List (String × String))
    {fuel : Nat} (hfuel : fields.length + 2 ≤ fuel) :
  readValue (fuel + 1) (compact (.object (textMembers (field :: fields)))).toList
    = some (.object (textMembers (field :: fields)), [])
  := by
  obtain ⟨rest, hquote⟩ := exists_compactMembers_eq field fields
  have hmembers := readMembers_compact field fields [] hfuel
  rw [hquote] at hmembers
  have hopen : skip ('\x7b' :: ('"' :: rest ++ ['\x7d']))
      = '\x7b' :: ('"' :: rest ++ ['\x7d']) := rfl
  rw [toList_compact_object, hquote, readValue, hopen]
  simp only [List.cons_append, skip_quote]
  rw [← List.cons_append, hmembers]
  rfl

/-- An object of texts that was written is read as it was. -/
theorem read?_compact_object (field : String × String) (fields : List (String × String)) :
  read? (compact (.object (textMembers (field :: fields))))
    = some (.object (textMembers (field :: fields)))
  := by
  have hfuel : fields.length + 2
      ≤ (compact (.object (textMembers (field :: fields)))).toList.length := by
    have hlength := length_lt_compactMembers field fields
    rw [toList_compact_object, List.length_cons, List.length_append, List.length_singleton]
    omega
  simp only [read?, readValue_object field fields hfuel]
  rfl

/-! ### One line -/

/-- Whether a character ends no line. -/
def isFeedless (c : Char) : Bool := c != '\r' && c != '\n'

theorem isFeedless_hexDigit : ∀ n < 16, isFeedless (hexDigit n) = true
  := by decide

/-- A character of a quoted text ends no line. -/
theorem feedless_escape (c : Char) :
  (escape c).all isFeedless = true
  := by
  rw [escape]
  split
  · rfl
  split
  · rfl
  split
  · rfl
  split
  · rfl
  split
  · rfl
  split
  · rfl
  split
  · rfl
  split
  · simp only [List.all_cons, isFeedless_hexDigit (c.toNat / 16) (by omega),
      isFeedless_hexDigit (c.toNat % 16) (by omega)]
    rfl
  · simp_all [isFeedless]

/-- A quoted text is one line. -/
theorem feedless_quote (s : String) :
  (quote s).toList.all isFeedless = true
  := by
  have hchars : (s.toList.flatMap escape).all isFeedless = true := by
    rw [List.all_flatMap, List.all_eq_true]
    intro c _
    apply feedless_escape
  rw [toList_quote, List.all_cons, List.all_append, hchars]
  rfl

/-- An object of texts is one line. -/
theorem feedless_compact_object (fields : List (String × String)) :
  (compact (.object (textMembers fields))).toList.all isFeedless = true
  := by
  have hfield : ∀ field : String × String,
      (quote field.1 ++ ":" ++ quote field.2).toList.all isFeedless = true := by
    intro field
    rw [String.toList_append, String.toList_append, List.all_append, List.all_append,
      feedless_quote, feedless_quote]
    rfl
  have hmembers : ∀ fields,
      (compactMembers (textMembers fields)).toList.all isFeedless = true := by
    intro fields
    induction fields with
    | nil => rfl
    | cons field fields ih =>
      cases fields with
      | nil => exact hfield field
      | cons next fields =>
        rw [toList_compactMembers, List.all_append, List.all_cons, hfield, ih]
        rfl
  rw [toList_compact_object, List.all_cons, List.all_append, hmembers]
  rfl

end TaskConsole.Json
