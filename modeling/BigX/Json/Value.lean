import BigX.Text.Integer

set_option autoImplicit false

/- JSON values as Python holds them, and how they are written. A string is a list of code points,
of which a text has only those that are characters. -/
namespace BigX.Json

abbrev Text := List Char

inductive Value (F : Type)
  | null
  | bool (value : Bool)
  | int (value : Int)
  | float (value : F)
  | string (points : List Nat)
  | list (items : List (Value F))
  | dict (members : List (List Nat × Value F))

/-- What is left open of floating point numbers: how one is written, what a written one is read
as, and which are finite. -/
structure Floats (F : Type) where
  text : F → Text
  read : Text → F
  nan : F
  infinity : F
  negativeInfinity : F
  finite : F → Prop

variable {F : Type}

/-- `\uXXXX` -/
def unicodeEscape (unit : Nat) : Text :=
  ['\\', 'u', Nat.digitChar (unit / 4096 % 16), Nat.digitChar (unit / 256 % 16),
    Nat.digitChar (unit / 16 % 16), Nat.digitChar (unit % 16)]

/-- The characters that are written with a backslash and a letter. -/
def shortEscapes : List (Nat × Char) :=
  [(34, '"'), (92, '\\'), (10, 'n'), (13, 'r'), (9, 't'), (12, 'f'), (8, 'b')]

def highSurrogate (point : Nat) : Nat := 0xd800 + (point - 0x10000) / 1024
def lowSurrogate (point : Nat) : Nat := 0xdc00 + (point - 0x10000) % 1024

/-- A code point within quotes, in ASCII. -/
def escape (point : Nat) : Text :=
  match shortEscapes.lookup point with
  | some letter => ['\\', letter]
  | none =>
    if 32 ≤ point ∧ point ≤ 126 then [Char.ofNat point]
    else if point < 0x10000 then unicodeEscape point
    else unicodeEscape (highSurrogate point) ++ unicodeEscape (lowSurrogate point)

def quote (points : List Nat) : Text := '"' :: (points.flatMap escape ++ ['"'])

/-- What stands between two items, and between a key and its value. -/
structure Separators where
  item : Text
  key : Text

def Separators.default : Separators := ⟨", ".toList, ": ".toList⟩
def Separators.compact : Separators := ⟨[','], [':']⟩

variable (floats : Floats F) (separators : Separators)

mutual

/-- `json.dumps` -/
def Value.dumps : Value F → Text
  | .null => "null".toList
  | .bool value => if value then "true".toList else "false".toList
  | .int value => value.repr.toList
  | .float value => floats.text value
  | .string points => quote points
  | .list [] => "[]".toList
  | .list (item :: rest) => '[' :: (item.dumps ++ (dumpItems rest ++ [']']))
  | .dict [] => ['\x7b', '\x7d']
  | .dict ((key, value) :: rest) =>
    '\x7b' :: (quote key ++ (separators.key ++ (value.dumps ++ (dumpMembers rest ++ ['\x7d']))))

/-- The items behind the first one. -/
def dumpItems : List (Value F) → Text
  | [] => []
  | item :: rest => separators.item ++ (item.dumps ++ dumpItems rest)

/-- The members behind the first one. -/
def dumpMembers : List (List Nat × Value F) → Text
  | [] => []
  | (key, value) :: rest =>
    separators.item ++ (quote key ++ (separators.key ++ (value.dumps ++ dumpMembers rest)))

end

mutual

/-- The value with the keys of its dicts in order. -/
def Value.sorted : Value F → Value F
  | .list items => .list (sortedItems items)
  | .dict members => .dict ((sortedMembers members).mergeSort fun one other => one.1 ≤ other.1)
  | value => value

def sortedItems : List (Value F) → List (Value F)
  | [] => []
  | item :: rest => item.sorted :: sortedItems rest

def sortedMembers : List (List Nat × Value F) → List (List Nat × Value F)
  | [] => []
  | (key, value) :: rest => (key, value.sorted) :: sortedMembers rest

end

/-- What is under a key. -/
def member? (members : List (List Nat × Value F)) (key : String) : Option (Value F) :=
  members.lookup (key.toList.map Char.toNat)

/-- A string that can be encoded: all its code points are characters. -/
def Encodable (points : List Nat) : Prop := ∀ point ∈ points, point.isValidChar

theorem toNat_ofNat {point : Nat} (valid : point.isValidChar) :
    (Char.ofNat point).toNat = point := by
  unfold Char.ofNat
  rw [dif_pos valid]
  rfl

theorem encodable_text (text : Text) : Encodable (text.map Char.toNat) := by
  intro point member
  obtain ⟨char, _, rfl⟩ := List.mem_map.mp member
  exact char.valid

theorem map_ofNat {points : List Nat} (encodable : Encodable points) :
    (points.map Char.ofNat).map Char.toNat = points := by
  rw [List.map_map]
  nth_rewrite 2 [← List.map_id points]
  apply List.map_congr_left
  intro point member
  exact toNat_ofNat (encodable point member)

/-- A text has the code points of one string only. -/
theorem points_injective : Function.Injective (List.map Char.toNat) :=
  List.map_injective_iff.mpr fun _ _ => Char.toNat_inj.mp

mutual

/-- A value that JSON has: strings of characters, finite numbers and, as dicts are, no key twice. -/
def Value.Representable : Value F → Prop
  | .null => True
  | .bool _ => True
  | .int _ => True
  | .float value => floats.finite value
  | .string points => Encodable points
  | .list items => RepresentableItems items
  | .dict members => (members.map Prod.fst).Nodup ∧ RepresentableMembers members

def RepresentableItems : List (Value F) → Prop
  | [] => True
  | item :: rest => item.Representable ∧ RepresentableItems rest

def RepresentableMembers : List (List Nat × Value F) → Prop
  | [] => True
  | (key, value) :: rest => Encodable key ∧ value.Representable ∧ RepresentableMembers rest

end

end BigX.Json
