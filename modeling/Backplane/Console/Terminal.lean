import Backplane.Console.Key
import Backplane.Numeral

/-!
# What a terminal sends

A terminal in raw mode sends a byte for most keys: characters as they are, control with a letter
as the letter's code, its erase key as delete.  Characters outside ASCII take several bytes, and
keys that stand for no character are sent as *sequences* that start with the escape byte.  That
byte is also the escape key itself, and what tells them apart is whether more bytes have arrived
with it.

Bytes are collected until they can be read as a whole (`read`).  What they are then is a key, or
nothing that could reach the serial line: an arrow, a mouse report, a malformed sequence.  In both
cases they are done with, and collecting starts anew.
-/

namespace Backplane.Console

namespace Terminal

/-- A key, and whether control was held. -/
structure Stroke where
  key : Key
  control : Bool := false
deriving DecidableEq, Repr

/-- What collected bytes are read as. -/
inductive Reading where
  /-- More bytes belong to them. -/
  | unfinished
  /-- They send no byte. -/
  | nothing
  | stroke (stroke : Stroke)
deriving DecidableEq, Repr

/-- The escape byte. -/
def escape : UInt8 := 0x1B

/-! ## Single bytes and characters -/

/-- The key of an ASCII byte other than escape.  The codes that belong to no letter are sent for
control with the blank and with the figures from four to seven. -/
def ofByte (value : UInt8) : Stroke :=
  if value = 0x0D then { key := .enter }
  else if value = 0x09 then { key := .tab }
  else if value = 0x7F then { key := .backspace }
  else if value = 0 then { key := .char ' ', control := true }
  else if value ≤ 26 then { key := .char (Char.ofNat (value.toNat + 96)), control := true }
  else if value < 0x20 then { key := .char (Char.ofNat (value.toNat + 24)), control := true }
  else { key := .char (Char.ofNat value.toNat) }

/-- The number of bytes in the encoding of a character that starts with the given one.  A byte
that starts no character stands alone. -/
def encodedLength (lead : UInt8) : Nat :=
  if lead < 0xC0 then 1
  else if lead < 0xE0 then 2
  else if lead < 0xF0 then 3
  else if lead < 0xF8 then 4
  else 1

/-- Whether a byte continues the encoding of a character. -/
def isContinuation (value : UInt8) : Bool := value &&& 0xC0 == 0x80

/-- Reads the encoding of a character outside ASCII.  No such character sends a byte. -/
def readEncoded (lead : UInt8) (rest : List UInt8) : Reading :=
  if rest.all isContinuation ∧ rest.length + 1 < encodedLength lead then .unfinished
  else .nothing

/-! ## Sequences with parameters -/

/-- Cuts a list of parameters at every occurrence of a separator. -/
def fields (separator : Char) (text : List Char) : List (List Char) :=
  text.foldr
    (fun c pieces =>
      if c = separator then [] :: pieces else (c :: pieces.headD []) :: pieces.drop 1)
    [[]]

/-- A decimal number below a bound. -/
def number? (bound : Nat) (text : List Char) : Option Nat :=
  (Numeral.parse 10 bound text).toOption

/-- The modifier keys of a sequence: one more than their sum, in the first part of the second
parameter.  Without one no key is held. -/
def modifiers (parameters : List (List Char)) : Nat :=
  match parameters[1]? with
  | none => 0
  | some parameter => ((number? 256 ((fields ':' parameter).headD [])).getD 1) - 1

/-- Whether a modifier of the given weight is held. -/
def isHeld (weight modifiers : Nat) : Bool := modifiers / weight % 2 == 1

/-- The keys of a number pad that stand for characters, from the number 57399 on. -/
def padKeys : List Key :=
  "0123456789./*-+".toList.map .char ++ [.enter] ++ "=,".toList.map .char

/-- The key of a key number. -/
def ofKeyNumber? (number : Nat) (shift : Bool) : Option Key :=
  if number = 0x1B then some .escape
  else if number = 0x0D then some .enter
  else if number = 0x09 then some (if shift then .other else .tab)
  else if number = 0x7F then some .backspace
  else if number = 57426 then some .delete
  else if 57399 ≤ number ∧ number < 57399 + padKeys.length then padKeys[number - 57399]?
  else if number.isValidChar then some (.char (Char.ofNat number))
  else none

/-- Reads a sequence that gives a key by its number. -/
def readNumbered (parameters : List (List Char)) : Reading :=
  let held := modifiers parameters
  match number? 0x100000000 ((fields ':' (parameters.headD [])).headD []) with
  | none => .nothing
  | some number =>
    match ofKeyNumber? number (isHeld 1 held) with
    | none => .nothing
    | some key => .stroke { key, control := isHeld 4 held }

/-- Reads a sequence of the editing keys.  Only the key numbered three sends a byte. -/
def readEditing (parameters : List (List Char)) : Reading :=
  if number? 256 (parameters.headD []) = some 3 then .stroke { key := .delete } else .nothing

/-- Whether a byte can end a sequence with parameters. -/
def isFinal (value : UInt8) : Bool := 64 ≤ value && value ≤ 126

/-- What starts and what ends text that was pasted. -/
def pasteStart : List Char := "200~".toList

/-- The end of text that was pasted. -/
def pasteEnd : List Char := "\x1b[201~".toList

/-- Reads a sequence that starts with a parameter. -/
def readParameters (body : List UInt8) : Reading :=
  match body.getLast? with
  | none => .unfinished
  | some last =>
    let text := body.map fun value => Char.ofNat value.toNat
    if body.length < 2 ∨ !isFinal last then .unfinished
    else if pasteStart.isPrefixOf text then
      if pasteEnd.isSuffixOf text then .nothing else .unfinished
    else if last = 0x7E then readEditing (fields ';' text.dropLast)
    else if last = 0x75 then readNumbered (fields ';' text.dropLast)
    else .nothing

/-- Reads what follows the opening of a control sequence.  Apart from parameters this is a key
without a byte, or a report on the mouse, which has a length or an end of its own. -/
def readControl (body : List UInt8) : Reading :=
  match body with
  | [] => .unfinished
  | first :: rest =>
    if 0x30 ≤ first ∧ first ≤ 0x39 then readParameters body
    else if first = 0x5B then if rest.isEmpty then .unfinished else .nothing
    else if first = 0x4D then if rest.length < 3 then .unfinished else .nothing
    else if first = 0x3C then
      if rest.getLast? = some 0x4D ∨ rest.getLast? = some 0x6D then .nothing else .unfinished
    else .nothing

/-! ## All of it -/

/-- Reads collected bytes; `followed` says whether more have arrived with them.  An escape byte
before anything else that can be read stands for the alternate key, which changes no byte. -/
def read (followed : Bool) : List UInt8 → Reading
  | [] => .unfinished
  | first :: rest =>
    if first = escape then
      match rest with
      | [] => if followed then .unfinished else .stroke { key := .escape }
      | second :: body =>
        if second = 0x4F then if body.isEmpty then .unfinished else .nothing
        else if second = 0x5B then readControl body
        else if second = escape then .stroke { key := .escape }
        else read followed (second :: body)
    else if first < 0x80 then .stroke (ofByte first)
    else readEncoded first rest

/-- The keys pressed, from the bytes collected before and those that arrived together, and the
bytes that are still collected. -/
def strokes : (collected received : List UInt8) → List Stroke × List UInt8
  | collected, [] => ([], collected)
  | collected, value :: rest =>
    match read (!rest.isEmpty) (collected ++ [value]) with
    | .unfinished => strokes (collected ++ [value]) rest
    | .nothing => strokes [] rest
    | .stroke stroke =>
      match strokes [] rest with
      | (later, collected) => (stroke :: later, collected)

/-- What a stroke sends over the serial line. -/
def Stroke.toByte? (stroke : Stroke) : Option UInt8 := stroke.key.toByte? stroke.control

/-- The bytes for the serial line, as in `strokes`. -/
def lineInput (collected received : List UInt8) : List UInt8 × List UInt8 :=
  match strokes collected received with
  | (pressed, collected) => (pressed.filterMap Stroke.toByte?, collected)

end Terminal

end Backplane.Console
