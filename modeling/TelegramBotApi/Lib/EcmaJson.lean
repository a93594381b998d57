import TelegramBotApi.Lib.Utf16

set_option autoImplicit false

-- JSON.stringify and JSON.parse of ECMA-262. A JSON text is well-formed, while the strings in
-- it are sequences of code units. Numbers are kept as their tokens.
namespace EcmaJson

open Utf16

inductive Value where
  | null
  | boolean (value : Bool)
  | number (token : List Char)
  | string (units : Units)
  | array (values : List Value)
  | object (fields : List (Units × Value))

def hexDigit (value : Nat) : Char := if value < 10 then Char.ofNat (48 + value) else Char.ofNat (87 + value)

def unicodeEscape (unit : Nat) : List Char :=
  ['\\', 'u', hexDigit (unit / 4096), hexDigit (unit / 256 % 16), hexDigit (unit / 16 % 16), hexDigit (unit % 16)]

-- The characters with an escape of their own, and its letter.
def escapes : List (Char × Char) :=
  [('\x08', 'b'), ('\t', 't'), ('\n', 'n'), ('\x0c', 'f'), ('\r', 'r'), ('"', '"'), ('\\', '\\')]

def quoteChar (char : Char) : List Char :=
  match escapes.lookup char with
  | some letter => ['\\', letter]
  | none => if char.toNat < 32 then unicodeEscape char.toNat else [char]

def quotePiece : Piece → List Char
  | .point char => quoteChar char
  | .lone unit => unicodeEscape unit.toNat

def quote (units : Units) : List Char := '"' :: (pieces units).flatMap quotePiece ++ ['"']

mutual
def stringify : Value → List Char
  | .null => ['n', 'u', 'l', 'l']
  | .boolean true => ['t', 'r', 'u', 'e']
  | .boolean false => ['f', 'a', 'l', 's', 'e']
  | .number token => token
  | .string units => quote units
  | .array values => '[' :: stringifyItems values ++ [']']
  | .object fields => '\x7b' :: stringifyFields fields ++ ['\x7d']
def stringifyItems : List Value → List Char
  | [] => []
  | [value] => stringify value
  | value :: next :: values => stringify value ++ ',' :: stringifyItems (next :: values)
def stringifyFields : List (Units × Value) → List Char
  | [] => []
  | [(name, value)] => quote name ++ ':' :: stringify value
  | (name, value) :: next :: fields => quote name ++ ':' :: stringify value ++ ',' :: stringifyFields (next :: fields)
end

def hexValue (char : Char) : Option Nat :=
  if 48 ≤ char.toNat ∧ char.toNat ≤ 57 then some (char.toNat - 48)
  else if 97 ≤ char.toNat ∧ char.toNat ≤ 102 then some (char.toNat - 87)
  else if 65 ≤ char.toNat ∧ char.toNat ≤ 70 then some (char.toNat - 55)
  else none

def hexUnit (first second third fourth : Char) : Option UInt16 := do
  let first ← hexValue first
  let second ← hexValue second
  let third ← hexValue third
  let fourth ← hexValue fourth
  return UInt16.ofNat (first * 4096 + second * 256 + third * 16 + fourth)

def unescape (letter : Char) : Option Char :=
  if letter = '/' then some '/' else (escapes.find? (fun escape => escape.2 = letter)).map Prod.fst

def prepend (units : Units) (read : Units × List Char) : Units × List Char := (units ++ read.1, read.2)

-- The rest of a string after its opening quote.
def readString : List Char → Option (Units × List Char)
  | [] => none
  | char :: rest =>
      if char = '"' then some ([], rest)
      else if char = '\\' then
        match rest with
        | 'u' :: first :: second :: third :: fourth :: rest =>
            (hexUnit first second third fourth).bind (fun unit => (readString rest).map (prepend [unit]))
        | letter :: rest => (unescape letter).bind (fun char => (readString rest).map (prepend (unitsOf char)))
        | [] => none
      else if char.toNat < 32 then none
      else (readString rest).map (prepend (unitsOf char))

def isSpace (char : Char) : Bool := char = ' ' || char = '\t' || char = '\n' || char = '\r'

def skipSpace (chars : List Char) : List Char := chars.dropWhile isSpace

def isNumberChar (char : Char) : Bool := char.isDigit || char = '-' || char = '+' || char = '.' || char = 'e' || char = 'E'

def isExponent : List Char → Bool
  | [] => true
  | letter :: rest =>
      let digits := if rest.head? = some '-' ∨ rest.head? = some '+' then rest.drop 1 else rest
      (letter = 'e' || letter = 'E') && digits ≠ [] && digits.all Char.isDigit

def isFraction : List Char → Bool
  | '.' :: rest => rest.head?.any Char.isDigit && isExponent (rest.dropWhile Char.isDigit)
  | rest => isExponent rest

-- The tokens of the grammar of numbers.
def isNumber (token : List Char) : Bool :=
  match (if token.head? = some '-' then token.drop 1 else token) with
  | [] => false
  | first :: rest => first.isDigit && isFraction (if first = '0' then rest else rest.dropWhile Char.isDigit)

def readNumber (chars : List Char) : Option (Value × List Char) :=
  if isNumber (chars.takeWhile isNumberChar) then some (.number (chars.takeWhile isNumberChar), chars.dropWhile isNumberChar)
  else none

def readWord (word : List Char) (value : Value) (chars : List Char) : Option (Value × List Char) :=
  if word.isPrefixOf chars then some (value, chars.drop word.length) else none

mutual
def readValue : Nat → List Char → Option (Value × List Char)
  | 0, _ => none
  | fuel + 1, chars =>
      match skipSpace chars with
      | [] => none
      | char :: rest =>
          if char = '"' then (readString rest).map (fun read => (.string read.1, read.2))
          else if char = '[' then
            if (skipSpace rest).head? = some ']' then some (.array [], (skipSpace rest).drop 1)
            else (readItems fuel rest).map (fun read => (.array read.1, read.2))
          else if char = '\x7b' then
            if (skipSpace rest).head? = some '\x7d' then some (.object [], (skipSpace rest).drop 1)
            else (readFields fuel rest).map (fun read => (.object read.1, read.2))
          else if char = 'n' then readWord ['n', 'u', 'l', 'l'] .null (char :: rest)
          else if char = 't' then readWord ['t', 'r', 'u', 'e'] (.boolean true) (char :: rest)
          else if char = 'f' then readWord ['f', 'a', 'l', 's', 'e'] (.boolean false) (char :: rest)
          else readNumber (char :: rest)
def readItems : Nat → List Char → Option (List Value × List Char)
  | 0, _ => none
  | fuel + 1, chars =>
      (readValue fuel chars).bind (fun read =>
        match skipSpace read.2 with
        | ',' :: rest => (readItems fuel rest).map (fun others => (read.1 :: others.1, others.2))
        | ']' :: rest => some ([read.1], rest)
        | _ => none)
def readFields : Nat → List Char → Option (List (Units × Value) × List Char)
  | 0, _ => none
  | fuel + 1, chars =>
      match skipSpace chars with
      | '"' :: rest =>
          (readString rest).bind (fun name =>
            match skipSpace name.2 with
            | ':' :: rest =>
                (readValue fuel rest).bind (fun read =>
                  match skipSpace read.2 with
                  | ',' :: rest => (readFields fuel rest).map (fun others => ((name.1, read.1) :: others.1, others.2))
                  | '\x7d' :: rest => some ([(name.1, read.1)], rest)
                  | _ => none)
            | _ => none)
      | _ => none
end

def parse (chars : List Char) : Option Value :=
  (readValue (chars.length + 1) chars).bind (fun read => if skipSpace read.2 = [] then some read.1 else none)

-- A later field with the same name takes the place of an earlier one.
def property (value : Value) (name : Units) : Option Value :=
  match value with
  | .object fields => (fields.reverse.find? (fun field => field.1 = name)).map Prod.snd
  | _ => none

def digitsValue (digits : List Char) : Nat := digits.foldl (fun value digit => value * 10 + (digit.toNat - 48)) 0

def exponentValue : List Char → Int
  | _ :: '-' :: digits => -digitsValue digits
  | _ :: '+' :: digits => digitsValue digits
  | _ :: digits => digitsValue digits
  | [] => 0

def numberValue (token : List Char) : ℚ :=
  let unsigned := if token.head? = some '-' then token.drop 1 else token
  let whole := unsigned.takeWhile Char.isDigit
  let (fraction, exponent) := match unsigned.dropWhile Char.isDigit with
    | '.' :: rest => (rest.takeWhile Char.isDigit, rest.dropWhile Char.isDigit)
    | rest => ([], rest)
  (if token.head? = some '-' then -1 else 1) * digitsValue (whole ++ fraction) *
    10 ^ (exponentValue exponent - fraction.length)

-- The double nearest to the number is 1.
def roundsToOne (token : List Char) : Bool :=
  1 - 1 / 2 ^ 54 ≤ numberValue token && numberValue token ≤ 1 + 1 / 2 ^ 53

theorem hex_value_digit (value : Nat) (small : value < 16) : hexValue (hexDigit value) = some value := by
  revert value
  decide

theorem hex_unit_escape (unit : Nat) (small : unit < 65536) :
    hexUnit (hexDigit (unit / 4096)) (hexDigit (unit / 256 % 16)) (hexDigit (unit / 16 % 16)) (hexDigit (unit % 16)) =
      some (UInt16.ofNat unit) := by
  have value : unit / 4096 * 4096 + unit / 256 % 16 * 256 + unit / 16 % 16 * 16 + unit % 16 = unit := by omega
  rw [hexUnit, hex_value_digit (unit / 4096) (by omega), hex_value_digit (unit / 256 % 16) (by omega),
    hex_value_digit (unit / 16 % 16) (by omega), hex_value_digit (unit % 16) (by omega)]
  simp only [Option.bind_eq_bind, Option.bind_some, value, Option.pure_def]

theorem read_unicode_escape (unit : Nat) (small : unit < 65536) (rest : List Char) :
    readString (unicodeEscape unit ++ rest) = (readString rest).map (prepend [UInt16.ofNat unit]) := by
  simp only [unicodeEscape, List.cons_append, List.nil_append]
  rw [readString, if_neg (by decide), if_pos rfl]
  simp only [hex_unit_escape unit small, Option.bind_some]

theorem read_quoted_char (char : Char) (rest : List Char) :
    readString (quoteChar char ++ rest) = (readString rest).map (prepend (unitsOf char)) := by
  unfold quoteChar
  cases found : escapes.lookup char with
  | some letter =>
      have known : (char, letter) ∈ escapes := by
        obtain ⟨before, after, same, _⟩ := List.lookup_eq_some_iff.1 found
        simp [same]
      simp only [escapes, List.mem_cons, Prod.mk.injEq, List.not_mem_nil, or_false] at known
      rcases known with ⟨rfl, rfl⟩ | ⟨rfl, rfl⟩ | ⟨rfl, rfl⟩ | ⟨rfl, rfl⟩ | ⟨rfl, rfl⟩ | ⟨rfl, rfl⟩ | ⟨rfl, rfl⟩ <;> rfl
  | none =>
      have plain : char ≠ '"' ∧ char ≠ '\\' := by
        constructor <;> rintro rfl <;> revert found <;> decide
      by_cases control : char.toNat < 32
      · simp only [if_pos control]
        rw [read_unicode_escape char.toNat (by omega), unitsOf, if_pos (by omega)]
      · simp only [if_neg control, List.cons_append, List.nil_append]
        rw [readString.eq_def]
        simp only [if_neg plain.1, if_neg plain.2, if_neg control]

theorem read_quoted_piece (piece : Piece) (rest : List Char) :
    readString (quotePiece piece ++ rest) = (readString rest).map (prepend piece.units) := by
  cases piece with
  | point char => exact read_quoted_char char rest
  | lone unit =>
      have bound := unit.toNat_lt
      rw [quotePiece, read_unicode_escape unit.toNat bound, unit_of_nat unit _ rfl]
      rfl

theorem read_quoted (pieces : List Piece) (rest : List Char) :
    readString (pieces.flatMap quotePiece ++ '"' :: rest) = some (pieces.flatMap Piece.units, rest) := by
  induction pieces with
  | nil => simp [readString.eq_def]
  | cons piece pieces ih =>
      rw [List.flatMap_cons, List.append_assoc, read_quoted_piece, ih]
      rfl

theorem read_quote (units : Units) (rest : List Char) :
    readString ((pieces units).flatMap quotePiece ++ '"' :: rest) = some (units, rest) := by
  rw [read_quoted, pieces_units]

theorem exponent_chars (token : List Char) (valid : isExponent token = true) : ∀ char ∈ token, isNumberChar char = true := by
  intro char member
  cases token with
  | nil => cases member
  | cons letter rest =>
      simp only [isExponent, Bool.and_eq_true, Bool.or_eq_true, decide_eq_true_eq, List.all_eq_true] at valid
      obtain ⟨⟨marked, _⟩, digits⟩ := valid
      rcases List.mem_cons.1 member with rfl | member
      · rcases marked with rfl | rfl <;> rfl
      · cases rest with
        | nil => cases member
        | cons sign rest =>
            split at digits
            · rename_i signed
              simp only [List.head?_cons, Option.some.injEq] at signed
              rcases List.mem_cons.1 member with rfl | member
              · rcases signed with rfl | rfl <;> rfl
              · simp [isNumberChar, digits char member]
            · simp [isNumberChar, digits char member]

theorem digits_chars (token : List Char) (later : ∀ char ∈ token.dropWhile Char.isDigit, isNumberChar char = true) :
    ∀ char ∈ token, isNumberChar char = true := by
  intro char member
  rw [← List.takeWhile_append_dropWhile (p := Char.isDigit) (l := token)] at member
  rcases List.mem_append.1 member with digit | member
  · simp [isNumberChar, List.mem_takeWhile_imp digit]
  · exact later char member

theorem fraction_chars (token : List Char) (valid : isFraction token = true) : ∀ char ∈ token, isNumberChar char = true := by
  unfold isFraction at valid
  split at valid
  · rename_i rest
    simp only [Bool.and_eq_true] at valid
    intro char member
    rcases List.mem_cons.1 member with rfl | member
    · rfl
    · exact digits_chars rest (exponent_chars _ valid.2) char member
  · exact exponent_chars _ valid

theorem number_chars (token : List Char) (valid : isNumber token = true) : ∀ char ∈ token, isNumberChar char = true := by
  have unsigned (digits : List Char) (first : Char) (rest : List Char) (split : digits = first :: rest)
      (holds : (first.isDigit && isFraction (if first = '0' then rest else rest.dropWhile Char.isDigit)) = true) :
      ∀ char ∈ digits, isNumberChar char = true := by
    subst split
    simp only [Bool.and_eq_true] at holds
    intro char member
    rcases List.mem_cons.1 member with rfl | member
    · simp [isNumberChar, holds.1]
    · by_cases zero : first = '0'
      · rw [if_pos zero] at holds
        exact fraction_chars rest holds.2 char member
      · rw [if_neg zero] at holds
        exact digits_chars rest (fraction_chars _ holds.2) char member
  unfold isNumber at valid
  split at valid
  · cases valid
  · rename_i first rest opened
    split at opened
    · rename_i signed
      cases token with
      | nil => cases signed
      | cons sign digits =>
          intro char member
          rcases List.mem_cons.1 member with rfl | member
          · cases signed
            rfl
          · exact unsigned digits first rest opened valid char member
    · exact unsigned token first rest opened valid

theorem number_first (token : List Char) (valid : isNumber token = true) :
    ∃ first rest, token = first :: rest ∧ isNumberChar first = true := by
  cases token with
  | nil => cases valid
  | cons first rest => exact ⟨first, rest, rfl, number_chars _ valid first List.mem_cons_self⟩

mutual
def Value.WellFormed : Value → Prop
  | .null => True
  | .boolean _ => True
  | .number token => isNumber token = true
  | .string _ => True
  | .array values => wellFormedItems values
  | .object fields => wellFormedFields fields
def wellFormedItems : List Value → Prop
  | [] => True
  | value :: values => value.WellFormed ∧ wellFormedItems values
def wellFormedFields : List (Units × Value) → Prop
  | [] => True
  | (_, value) :: fields => value.WellFormed ∧ wellFormedFields fields
end

def Stops (rest : List Char) : Prop := ∀ char ∈ rest.head?, isNumberChar char = false

theorem read_number (token rest : List Char) (valid : isNumber token = true) (stops : Stops rest) :
    readNumber (token ++ rest) = some (.number token, rest) := by
  have none : rest.takeWhile isNumberChar = [] ∧ rest.dropWhile isNumberChar = rest := by
    cases rest with
    | nil => exact ⟨rfl, rfl⟩
    | cons first rest => simp [stops first rfl]
  have taken : (token ++ rest).takeWhile isNumberChar = token := by
    rw [List.takeWhile_append_of_pos (number_chars token valid), none.1, List.append_nil]
  have dropped : (token ++ rest).dropWhile isNumberChar = rest := by
    rw [List.dropWhile_append_of_pos (number_chars token valid), none.2]
  rw [readNumber, taken, dropped, if_pos valid]

theorem read_word (word rest : List Char) (value : Value) : readWord word value (word ++ rest) = some (value, rest) := by
  rw [readWord, if_pos (List.isPrefixOf_iff_prefix.2 (List.prefix_append word rest)), List.drop_left]

theorem skip_space_cons (char : Char) (rest : List Char) (solid : isSpace char = false) :
    skipSpace (char :: rest) = char :: rest :=
  List.dropWhile_cons_of_neg (by simp [solid])

theorem stringify_first (value : Value) (valid : value.WellFormed) :
    ∃ first rest, stringify value = first :: rest ∧ isSpace first = false ∧ first ≠ ']' := by
  cases value with
  | null => exact ⟨_, _, by rw [stringify], rfl, by decide⟩
  | boolean value => cases value <;> exact ⟨_, _, by rw [stringify], rfl, by decide⟩
  | number token =>
      obtain ⟨first, rest, same, numeric⟩ := number_first token valid
      refine ⟨first, rest, by rw [stringify, same], ?_, ?_⟩
      · cases spaced : isSpace first with
        | false => rfl
        | true =>
            simp only [isSpace, Bool.or_eq_true, decide_eq_true_eq] at spaced
            rcases spaced with ((rfl | rfl) | rfl) | rfl <;> cases numeric
      · rintro rfl
        cases numeric
  | string units => exact ⟨_, _, by rw [stringify, quote]; rfl, rfl, by decide⟩
  | array values => exact ⟨_, _, by rw [stringify]; rfl, rfl, by decide⟩
  | object fields => exact ⟨_, _, by rw [stringify]; rfl, rfl, by decide⟩

theorem read_number_value (token rest : List Char) (valid : isNumber token = true) (stops : Stops rest) (fuel : Nat) :
    readValue (fuel + 1) (token ++ rest) = some (.number token, rest) := by
  obtain ⟨first, others, same, numeric⟩ := number_first token valid
  have solid : isSpace first = false := by
    cases spaced : isSpace first with
    | false => rfl
    | true =>
        simp only [isSpace, Bool.or_eq_true, decide_eq_true_eq] at spaced
        rcases spaced with ((rfl | rfl) | rfl) | rfl <;> cases numeric
  have different (char : Char) (other : isNumberChar char = false) : first ≠ char := by
    rintro rfl
    rw [numeric] at other
    cases other
  have read := read_number token rest valid stops
  rw [same, List.cons_append] at read ⊢
  simp only [readValue, skip_space_cons first _ solid]
  rw [if_neg (different _ rfl), if_neg (different _ rfl), if_neg (different _ rfl), if_neg (different _ rfl),
    if_neg (different _ rfl), if_neg (different _ rfl)]
  exact read

theorem items_first (values : List Value) (nonempty : values ≠ []) (valid : wellFormedItems values) :
    ∃ first rest, stringifyItems values = first :: rest ∧ isSpace first = false ∧ first ≠ ']' := by
  cases values with
  | nil => exact absurd rfl nonempty
  | cons value values =>
      obtain ⟨first, rest, same, solid, other⟩ := stringify_first value valid.1
      cases values with
      | nil => exact ⟨first, rest, by rw [stringifyItems, same], solid, other⟩
      | cons next values => exact ⟨first, _, by rw [stringifyItems, same, List.cons_append], solid, other⟩

mutual
-- The fuel covers the nesting, which the length of the text bounds.
theorem read_value (value : Value) (valid : value.WellFormed) (fuel : Nat) (enough : (stringify value).length ≤ fuel)
    (rest : List Char) (stops : Stops rest) : readValue fuel (stringify value ++ rest) = some (value, rest) := by
  obtain ⟨fuel, rfl⟩ : ∃ less, fuel = less + 1 := by
    obtain ⟨first, others, same, _⟩ := stringify_first value valid
    rw [same, List.length_cons] at enough
    exact ⟨fuel - 1, by omega⟩
  cases value with
  | null => rw [stringify]; exact read_word ['n', 'u', 'l', 'l'] rest .null
  | boolean value =>
      cases value with
      | true => rw [stringify]; exact read_word ['t', 'r', 'u', 'e'] rest (.boolean true)
      | false => rw [stringify]; exact read_word ['f', 'a', 'l', 's', 'e'] rest (.boolean false)
  | number token => rw [stringify]; exact read_number_value token rest valid stops fuel
  | string units =>
      have read := read_quote units rest
      rw [stringify, quote, List.cons_append, List.cons_append, List.append_assoc, List.singleton_append]
      change (readString _).map _ = _
      rw [read]
      rfl
  | array values =>
      rw [stringify, List.length_append, List.length_cons, List.length_singleton] at enough
      rw [stringify, List.cons_append, List.cons_append, List.append_assoc, List.singleton_append]
      cases values with
      | nil => rfl
      | cons value values =>
          have read := read_items (value :: values) (List.cons_ne_nil _ _) valid fuel (by omega) rest
          obtain ⟨first, others, same, solid, other⟩ := items_first (value :: values) (List.cons_ne_nil _ _) valid
          rw [same, List.cons_append] at read ⊢
          simp only [readValue, skip_space_cons '[' _ rfl, skip_space_cons first _ solid, List.head?_cons, read]
          simp [other]
  | object fields =>
      rw [stringify, List.length_append, List.length_cons, List.length_singleton] at enough
      rw [stringify, List.cons_append, List.cons_append, List.append_assoc, List.singleton_append]
      cases fields with
      | nil => rfl
      | cons field fields =>
          have read := read_fields (field :: fields) (List.cons_ne_nil _ _) valid fuel (by omega) rest
          have first : ∃ others, stringifyFields (field :: fields) = '"' :: others := by
            cases fields <;> exact ⟨_, by rw [stringifyFields, quote]; rfl⟩
          obtain ⟨others, same⟩ := first
          rw [same, List.cons_append] at read ⊢
          simp only [readValue, skip_space_cons '\x7b' _ rfl, skip_space_cons '"' _ rfl, List.head?_cons, read]
          simp
theorem read_items (values : List Value) (nonempty : values ≠ []) (valid : wellFormedItems values) (fuel : Nat)
    (enough : (stringifyItems values).length + 1 ≤ fuel) (rest : List Char) :
    readItems fuel (stringifyItems values ++ ']' :: rest) = some (values, rest) := by
  obtain ⟨fuel, rfl⟩ : ∃ less, fuel = less + 1 := ⟨fuel - 1, by omega⟩
  match values with
  | [value] =>
      rw [stringifyItems] at enough
      have read := read_value value valid.1 fuel (by omega) (']' :: rest) (by rintro char ⟨⟩; rfl)
      rw [stringifyItems, readItems, read]
      rfl
  | value :: next :: values =>
      rw [stringifyItems, List.length_append, List.length_cons] at enough
      have read := read_value value valid.1 fuel (by omega) (',' :: (stringifyItems (next :: values) ++ ']' :: rest))
        (by rintro char ⟨⟩; rfl)
      have others := read_items (next :: values) (List.cons_ne_nil _ _) valid.2 fuel (by omega) rest
      rw [stringifyItems, List.append_assoc, List.cons_append, readItems, read, Option.bind_some,
        skip_space_cons ',' _ rfl]
      change (readItems fuel _).map _ = _
      rw [others]
      rfl
theorem read_fields (fields : List (Units × Value)) (nonempty : fields ≠ []) (valid : wellFormedFields fields) (fuel : Nat)
    (enough : (stringifyFields fields).length + 1 ≤ fuel) (rest : List Char) :
    readFields fuel (stringifyFields fields ++ '\x7d' :: rest) = some (fields, rest) := by
  obtain ⟨fuel, rfl⟩ : ∃ less, fuel = less + 1 := ⟨fuel - 1, by omega⟩
  match fields with
  | [(name, value)] =>
      rw [stringifyFields, List.length_append, List.length_cons] at enough
      have read := read_value value valid.1 fuel (by omega) ('\x7d' :: rest) (by rintro char ⟨⟩; rfl)
      rw [stringifyFields, quote, readFields]
      simp only [List.cons_append, List.append_assoc, List.nil_append, skip_space_cons '"' _ rfl, read_quote,
        Option.bind_some, skip_space_cons ':' _ rfl, read, skip_space_cons '\x7d' _ rfl]
  | (name, value) :: next :: fields =>
      rw [stringifyFields, List.length_append, List.length_append, List.length_cons, List.length_cons] at enough
      have read := read_value value valid.1 fuel (by omega) (',' :: (stringifyFields (next :: fields) ++ '\x7d' :: rest))
        (by rintro char ⟨⟩; rfl)
      have others := read_fields (next :: fields) (List.cons_ne_nil _ _) valid.2 fuel (by omega) rest
      rw [stringifyFields, quote, readFields]
      simp only [List.cons_append, List.append_assoc, List.nil_append, skip_space_cons '"' _ rfl, read_quote,
        Option.bind_some, skip_space_cons ':' _ rfl, read, skip_space_cons ',' _ rfl, others, Option.map_some]
end

theorem parse_stringify (value : Value) (valid : value.WellFormed) : parse (stringify value) = some value := by
  have read := read_value value valid ((stringify value).length + 1) (by omega) [] (by rintro char ⟨⟩)
  rw [List.append_nil] at read
  rw [parse, read, Option.bind_some]
  exact if_pos rfl

-- The bytes of UTF-8 that a code point takes in a quoted string.
def escapedSize : Piece → Nat
  | .point char => if (escapes.lookup char).isSome then 2 else if char.toNat < 32 then 6 else char.utf8Size
  | .lone _ => 6

def escapedTextSize (units : Units) : Nat := ((pieces units).map escapedSize).sum

theorem hex_digit_size (value : Nat) : (hexDigit (value % 16)).utf8Size = 1 := by
  have small : value % 16 < 16 := Nat.mod_lt _ (by omega)
  revert small
  generalize value % 16 = digit
  revert digit
  decide

theorem unicode_escape_size (unit : Nat) (small : unit < 65536) : String.utf8Len (unicodeEscape unit) = 6 := by
  have first : unit / 4096 = unit / 4096 % 16 := by omega
  rw [unicodeEscape, first]
  simp only [String.utf8Len_cons, String.utf8Len_nil, hex_digit_size]
  rfl

theorem quote_char_size (char : Char) : String.utf8Len (quoteChar char) = escapedSize (.point char) := by
  rw [quoteChar, escapedSize]
  cases found : escapes.lookup char with
  | some letter =>
      have known : (char, letter) ∈ escapes := by
        obtain ⟨before, after, same, _⟩ := List.lookup_eq_some_iff.1 found
        simp [same]
      have ascii : ∀ escape ∈ escapes, escape.2.utf8Size = 1 := by decide
      simp only [Option.isSome_some, if_true, String.utf8Len_cons, ascii _ known]
      rfl
  | none =>
      by_cases control : char.toNat < 32
      · simp only [Option.isSome_none, Bool.false_eq_true, if_false, if_pos control]
        exact unicode_escape_size char.toNat (by omega)
      · simp only [Option.isSome_none, Bool.false_eq_true, if_false, if_neg control, String.utf8Len_cons, String.utf8Len_nil,
          Nat.zero_add]

theorem quote_piece_size (piece : Piece) : String.utf8Len (quotePiece piece) = escapedSize piece := by
  cases piece with
  | point char => exact quote_char_size char
  | lone unit => exact unicode_escape_size unit.toNat unit.toNat_lt

theorem quote_size (units : Units) : String.utf8Len (quote units) = escapedTextSize units + 2 := by
  have inner (pieces : List Piece) :
      String.utf8Len (pieces.flatMap quotePiece) = (pieces.map escapedSize).sum := by
    induction pieces with
    | nil => rfl
    | cons piece pieces ih =>
        rw [List.flatMap_cons, String.utf8Len_append, ih, quote_piece_size, List.map_cons, List.sum_cons, Nat.add_comm]
  rw [quote, List.cons_append, String.utf8Len_cons, String.utf8Len_append, inner, escapedTextSize]
  change _ + 1 + 1 = _
  omega

theorem escaped_text_size_of_chars (chars : List Char) :
    escapedTextSize (chars.flatMap unitsOf) = (chars.map (fun char => escapedSize (.point char))).sum := by
  rw [escapedTextSize, pieces_of_string, List.map_map]
  rfl

end EcmaJson
