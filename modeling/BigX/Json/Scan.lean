import BigX.Json.Value

set_option autoImplicit false

/- How a JSON text is read: at a value the scanner takes what belongs to it and goes on with the
rest. -/
namespace BigX.Json

variable {F : Type}

def isBlank (char : Char) : Bool := char = ' ' || char = '\t' || char = '\n' || char = '\r'

/-- The text from its next character on that is not blank. -/
def skip (text : Text) : Text := text.dropWhile isBlank

def hexValue (char : Char) : Option Nat :=
  if char.isDigit then some (char.toNat - 48)
  else if 97 ≤ char.toNat ∧ char.toNat ≤ 102 then some (char.toNat - 87)
  else if 65 ≤ char.toNat ∧ char.toNat ≤ 70 then some (char.toNat - 55)
  else none

/-- The unit of a `\u` escape. -/
def hexUnit (first second third fourth : Char) : Option Nat := do
  let first ← hexValue first
  let second ← hexValue second
  let third ← hexValue third
  let fourth ← hexValue fourth
  return first * 4096 + second * 256 + third * 16 + fourth

/-- The code point of an escape of one letter. -/
def escaped (letter : Char) : Option Nat :=
  [('"', 34), ('\\', 92), ('/', 47), ('b', 8), ('f', 12), ('n', 10), ('r', 13), ('t', 9)].lookup
    letter

/-- The units of a string up to its closing quote, and the text behind that. -/
def scanUnits : Text → Option (List Nat × Text)
  | [] => none
  | char :: rest =>
    if char = '"' then some ([], rest)
    else if char = '\\' then
      match rest with
      | [] => none
      | letter :: rest =>
        if letter = 'u' then
          match rest with
          | first :: second :: third :: fourth :: rest => do
            let unit ← hexUnit first second third fourth
            let (units, rest) ← scanUnits rest
            return (unit :: units, rest)
          | _ => none
        else do
          let point ← escaped letter
          let (units, rest) ← scanUnits rest
          return (point :: units, rest)
    else if char.toNat < 32 then none
    else do
      let (units, rest) ← scanUnits rest
      return (char.toNat :: units, rest)

def isHigh (unit : Nat) : Bool := 0xd800 ≤ unit && unit ≤ 0xdbff
def isLow (unit : Nat) : Bool := 0xdc00 ≤ unit && unit ≤ 0xdfff

/-- Two surrogates that belong together are one code point. -/
def joinSurrogates : List Nat → List Nat
  | [] => []
  | [unit] => [unit]
  | unit :: next :: rest =>
    if isHigh unit && isLow next then
      (0x10000 + (unit - 0xd800) * 1024 + (next - 0xdc00)) :: joinSurrogates rest
    else unit :: joinSurrogates (next :: rest)

/-- The string behind an opening quote. -/
def scanString (text : Text) : Option (List Nat × Text) :=
  (scanUnits text).map fun (units, rest) => (joinSurrogates units, rest)

/-- `-?` -/
def signOf : Text → Text
  | '-' :: _ => ['-']
  | _ => []

/-- `0|[1-9]\d*` -/
def wholeOf : Text → Text
  | '0' :: _ => ['0']
  | text => text.takeWhile Char.isDigit

/-- `(\.\d+)?` -/
def fractionOf : Text → Text
  | '.' :: rest =>
    let digits := rest.takeWhile Char.isDigit
    if digits = [] then [] else '.' :: digits
  | _ => []

/-- `[-+]?` -/
def exponentSignOf : Text → Text
  | '-' :: _ => ['-']
  | '+' :: _ => ['+']
  | _ => []

/-- `([eE][-+]?\d+)?` -/
def exponentOf : Text → Text
  | mark :: rest =>
    if mark = 'e' ∨ mark = 'E' then
      let sign := exponentSignOf rest
      let digits := (rest.drop sign.length).takeWhile Char.isDigit
      if digits = [] then [] else mark :: (sign ++ digits)
    else []
  | [] => []

variable (floats : Floats F)

/-- The number that is written with these parts: an integer without a fraction and exponent. -/
def number (sign whole fraction exponent : Text) : Value F :=
  if fraction = [] ∧ exponent = [] then
    .int (if sign = [] then Nat.ofDigitChars 10 whole 0 else -(Nat.ofDigitChars 10 whole 0 : Int))
  else .float (floats.read (sign ++ (whole ++ (fraction ++ exponent))))

def scanNumber (text : Text) : Option (Value F × Text) :=
  let sign := signOf text
  let text := text.drop sign.length
  let whole := wholeOf text
  if whole = [] then none
  else
    let text := text.drop whole.length
    let fraction := fractionOf text
    let text := text.drop fraction.length
    let exponent := exponentOf text
    some (number floats sign whole fraction exponent, text.drop exponent.length)

def words : List (Text × Value F) :=
  [("null".toList, .null), ("true".toList, .bool true), ("false".toList, .bool false),
    ("NaN".toList, .float floats.nan), ("Infinity".toList, .float floats.infinity),
    ("-Infinity".toList, .float floats.negativeInfinity)]

def scanWord (text : Text) : Option (Value F × Text) :=
  (words floats).findSome? fun (word, value) =>
    if word.isPrefixOf text then some (value, text.drop word.length) else none

/-- A dict in which a key is set, in its old place if it has one. -/
def insert (key : List Nat) (value : Value F) :
    List (List Nat × Value F) → List (List Nat × Value F)
  | [] => [(key, value)]
  | (first, old) :: rest =>
    if first = key then (key, value) :: rest else (first, old) :: insert key value rest

/-- The dict of these members, the last of those with the same key. -/
def dictOf (members : List (List Nat × Value F)) : List (List Nat × Value F) :=
  members.foldl (fun dict (key, value) => insert key value dict) []

section Parts

variable (value : Text → Option (Value F × Text)) (items : Text → Option (List (Value F) × Text))
variable (members : Text → Option (List (List Nat × Value F) × Text))

/-- The value at the head of a text, where items and members are scanned so. -/
def scanValue : Text → Option (Value F × Text)
  | [] => none
  | char :: rest =>
    if char = '"' then (scanString rest).map fun (points, rest) => (.string points, rest)
    else if char = '[' then
      if (skip rest).head? = some ']' then some (.list [], (skip rest).tail)
      else (items (skip rest)).map fun (items, rest) => (.list items, rest)
    else if char = '\x7b' then
      if (skip rest).head? = some '\x7d' then some (.dict [], (skip rest).tail)
      else (members (skip rest)).map fun (members, rest) => (.dict (dictOf members), rest)
    else (scanWord floats (char :: rest)).or (scanNumber floats (char :: rest))

/-- A value, and what makes an entry of it; then the entries behind a comma, scanned as `more`
says, or the closing character. -/
def scanEntry {α : Type} (closing : Char) (entry : Value F → α)
    (more : Text → Option (List α × Text)) (text : Text) : Option (List α × Text) :=
  (value text).bind fun (value, rest) =>
    match skip rest with
    | [] => none
    | char :: rest =>
      if char = closing then some ([entry value], rest)
      else if char = ',' then
        (more (skip rest)).map fun (entries, rest) => (entry value :: entries, rest)
      else none

/-- A key, and the members from its value on. -/
def scanMember : Text → Option (List (List Nat × Value F) × Text)
  | [] => none
  | char :: text =>
    if char = '"' then
      (scanString text).bind fun (key, rest) =>
        match skip rest with
        | [] => none
        | char :: rest =>
          if char = ':' then
            scanEntry value '\x7d' (fun value => (key, value)) members (skip rest)
          else none
    else none

end Parts

mutual

/-- The value at the head of a text, in so many calls, and the text behind it. -/
def scan : (fuel : Nat) → Text → Option (Value F × Text)
  | 0 => fun _ => none
  | fuel + 1 => scanValue floats (scanItems fuel) (scanMembers fuel)

/-- The items up to the closing bracket. -/
def scanItems : (fuel : Nat) → Text → Option (List (Value F) × Text)
  | 0 => fun _ => none
  | fuel + 1 => scanEntry (scan fuel) ']' id (scanItems fuel)

/-- The members up to the closing brace. -/
def scanMembers : (fuel : Nat) → Text → Option (List (List Nat × Value F) × Text)
  | 0 => fun _ => none
  | fuel + 1 => scanMember (scan fuel) (scanMembers fuel)

end

/-- `json.loads`, which raises `JSONDecodeError` where there is no value. -/
def loads (text : Text) : Option (Value F) :=
  if text.head? = some '\ufeff' then none
  else
    match scan floats (2 * text.length + 1) (skip text) with
    | some (value, rest) => if skip rest = [] then some value else none
    | none => none

end BigX.Json
