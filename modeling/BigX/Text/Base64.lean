import BigX.Run.Outcome
import Mathlib.Data.List.Basic

set_option autoImplicit false

/- Bytes as base64 text, four characters for three bytes, and how such a text is read. -/
namespace BigX.Text.Base64

def alphabet : List Char :=
  "ABCDEFGHIJKLMNOPQRSTUVWXYZabcdefghijklmnopqrstuvwxyz0123456789+/".toList

/-- The character for six bits. -/
def symbol (sextet : Nat) : Char := alphabet.getD sextet '='

/-- The six bits a character stands for. -/
def value (char : Char) : Option Nat := alphabet.findIdx? (· = char)

def encode : List UInt8 → List Char
  | [] => []
  | [first] => [symbol (first.toNat / 4), symbol (first.toNat % 4 * 16), '=', '=']
  | [first, second] =>
    [symbol (first.toNat / 4), symbol (first.toNat % 4 * 16 + second.toNat / 16),
      symbol (second.toNat % 16 * 4), '=']
  | first :: second :: third :: rest =>
    symbol (first.toNat / 4) :: symbol (first.toNat % 4 * 16 + second.toNat / 16) ::
      symbol (second.toNat % 16 * 4 + third.toNat / 64) :: symbol (third.toNat % 64) :: encode rest

/-- What is left of a text, at a place in a group of four: `left` are the bits of the group that
make up no byte yet, `pads` the paddings read, and `out` the bytes so far. What is no character of
the alphabet is passed over. -/
def scan (place left pads : Nat) (out : List UInt8) : List Char → Except String (List UInt8)
  | [] =>
    if place = 0 then .ok out
    else if place = 1 then
      .error (s!"Invalid base64-encoded string: number of data characters " ++
        s!"({out.length / 3 * 4 + 1}) cannot be 1 more than a multiple of 4")
    else .error "Incorrect padding"
  | char :: rest =>
    if char = '=' then
      if 2 ≤ place then
        if 4 ≤ place + (pads + 1) then .ok out else scan place left (pads + 1) out rest
      else scan place left pads out rest
    else
      match value char with
      | none => scan place left pads out rest
      | some sextet =>
        match place with
        | 0 => scan 1 sextet 0 out rest
        | 1 => scan 2 (sextet % 16) 0 (out ++ [UInt8.ofNat (left * 4 + sextet / 16)]) rest
        | 2 => scan 3 (sextet % 4) 0 (out ++ [UInt8.ofNat (left * 16 + sextet / 4)]) rest
        | _ => scan 0 0 0 (out ++ [UInt8.ofNat (left * 64 + sextet)]) rest

def decode (text : List Char) : Except String (List UInt8) :=
  if text.all fun char => char.toNat < 128 then scan 0 0 0 [] text
  else .error "string argument should contain only ASCII characters"

theorem value_symbol {sextet : Nat} (small : sextet < 64) :
    symbol sextet ≠ '=' ∧ value (symbol sextet) = some sextet := by
  have table : ∀ sextet < 64, symbol sextet ≠ '=' ∧ value (symbol sextet) = some sextet := by
    decide +kernel
  exact table sextet small

section Groups

variable {sextet : Nat} (small : sextet < 64) (left pads : Nat) (out : List UInt8)
variable (rest : List Char)

include small

/-- A character of the alphabet adds its six bits to the group. -/
theorem scan_symbol (place : Nat) : scan place left pads out (symbol sextet :: rest) =
    match place with
    | 0 => scan 1 sextet 0 out rest
    | 1 => scan 2 (sextet % 16) 0 (out ++ [UInt8.ofNat (left * 4 + sextet / 16)]) rest
    | 2 => scan 3 (sextet % 4) 0 (out ++ [UInt8.ofNat (left * 16 + sextet / 4)]) rest
    | _ => scan 0 0 0 (out ++ [UInt8.ofNat (left * 64 + sextet)]) rest := by
  rw [scan, if_neg (value_symbol small).1, (value_symbol small).2]

theorem scan_first : scan 0 left pads out (symbol sextet :: rest) = scan 1 sextet 0 out rest :=
  scan_symbol small left pads out rest 0

theorem scan_second : scan 1 left pads out (symbol sextet :: rest) =
    scan 2 (sextet % 16) 0 (out ++ [UInt8.ofNat (left * 4 + sextet / 16)]) rest :=
  scan_symbol small left pads out rest 1

theorem scan_third : scan 2 left pads out (symbol sextet :: rest) =
    scan 3 (sextet % 4) 0 (out ++ [UInt8.ofNat (left * 16 + sextet / 4)]) rest :=
  scan_symbol small left pads out rest 2

theorem scan_fourth : scan 3 left pads out (symbol sextet :: rest) =
    scan 0 0 0 (out ++ [UInt8.ofNat (left * 64 + sextet)]) rest :=
  scan_symbol small left pads out rest 3

end Groups

theorem ofNat_eq {number : Nat} {byte : UInt8} (same : number = byte.toNat) :
    UInt8.ofNat number = byte := by
  rw [same, UInt8.ofNat_toNat]

/-- Reading an encoding brings back its bytes, group by group. -/
theorem scan_encode (bytes out : List UInt8) :
    scan 0 0 0 out (encode bytes) = .ok (out ++ bytes) := by
  induction bytes using encode.induct generalizing out with
  | case1 => exact congrArg Except.ok (List.append_nil out).symm
  | case2 first =>
    have small := first.toNat_lt
    rw [encode, scan_first (by omega), scan_second (by omega),
      ofNat_eq (show first.toNat / 4 * 4 + first.toNat % 4 * 16 / 16 = first.toNat by omega)]
    rfl
  | case3 first second =>
    have small := first.toNat_lt
    have small' := second.toNat_lt
    rw [encode, scan_first (by omega), scan_second (by omega), scan_third (by omega),
      ofNat_eq (show first.toNat / 4 * 4 + (first.toNat % 4 * 16 + second.toNat / 16) / 16 =
        first.toNat by omega),
      ofNat_eq (show (first.toNat % 4 * 16 + second.toNat / 16) % 16 * 16 +
        second.toNat % 16 * 4 / 4 = second.toNat by omega), List.append_assoc]
    rfl
  | case4 first second third rest ih =>
    have small := first.toNat_lt
    have small' := second.toNat_lt
    have small'' := third.toNat_lt
    rw [encode, scan_first (by omega), scan_second (by omega), scan_third (by omega),
      scan_fourth (by omega),
      ofNat_eq (show first.toNat / 4 * 4 + (first.toNat % 4 * 16 + second.toNat / 16) / 16 =
        first.toNat by omega),
      ofNat_eq (show (first.toNat % 4 * 16 + second.toNat / 16) % 16 * 16 +
        (second.toNat % 16 * 4 + third.toNat / 64) / 4 = second.toNat by omega),
      ofNat_eq (show (second.toNat % 16 * 4 + third.toNat / 64) % 4 * 64 + third.toNat % 64 =
        third.toNat by omega), ih, List.append_assoc, List.append_assoc, List.append_assoc]
    rfl

/-- An encoding has characters of the alphabet and the padding only. -/
theorem mem_encode {bytes : List UInt8} {char : Char} (member : char ∈ encode bytes) :
    char ∈ '=' :: alphabet := by
  have symbols : ∀ sextet, symbol sextet ∈ '=' :: alphabet := by
    intro sextet
    rw [symbol, List.getD_eq_getElem?_getD]
    cases found : alphabet[sextet]? with
    | none => exact List.mem_cons_self
    | some char => exact List.mem_cons_of_mem _ (List.mem_of_getElem? found)
  induction bytes using encode.induct with
  | case1 => cases member
  | case2 first =>
    simp only [encode, List.mem_cons, List.not_mem_nil, or_false] at member
    rcases member with rfl | rfl | rfl | rfl <;>
      first | exact symbols _ | exact List.mem_cons_self
  | case3 first second =>
    simp only [encode, List.mem_cons, List.not_mem_nil, or_false] at member
    rcases member with rfl | rfl | rfl | rfl <;>
      first | exact symbols _ | exact List.mem_cons_self
  | case4 first second third rest ih =>
    simp only [encode, List.mem_cons] at member
    rcases member with rfl | rfl | rfl | rfl | later
    · exact symbols _
    · exact symbols _
    · exact symbols _
    · exact symbols _
    · exact ih later

theorem not_mem_encode {char : Char} (foreign : char ∉ '=' :: alphabet) (bytes : List UInt8) :
    char ∉ encode bytes :=
  fun member => foreign (mem_encode member)

theorem decode_encode (bytes : List UInt8) : decode (encode bytes) = .ok bytes := by
  have ascii : ∀ char ∈ '=' :: alphabet, char.toNat < 128 := by
    have all : ('=' :: alphabet).all (fun char => char.toNat < 128) = true := by decide +kernel
    simpa only [List.all_eq_true, decide_eq_true_eq] using all
  have plain : (encode bytes).all (fun char => char.toNat < 128) = true :=
    List.all_eq_true.mpr fun char member => decide_eq_true (ascii char (mem_encode member))
  rw [decode, if_pos plain]
  exact scan_encode bytes []

end BigX.Text.Base64
