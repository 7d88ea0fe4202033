import Backplane.Dialog.Dump
import Backplane.Proofs.Memory.Blocks
import Backplane.Proofs.Numeral.Reading

/-!
# Reading a dump back

A dump is a text for the person at the terminal, and nothing of what it shows is lost in it.  Cut at
its line ends it falls into sixteen rows, whatever the bytes are, because each character of a row is
printable; and each row says at which address it begins and what the bus reads there
(`ReadsBack.rows`).  So two memories give the same dump only if they read the same at all 256
addresses.

What is printed depends on what the bus reads and on nothing else (`toList_dump`).  The rest of the
file is about text: `cutLines` takes a text apart at its line ends, `readRow?` takes a row apart,
and neither knows how a row was made.

## Addresses

A dump starts at any address, and its addresses wrap at the top.  None of its 256 addresses comes up
twice, so every row says something about addresses of its own.

Reading does not change memory, so the dump is of one state, although it is made of 256 reads.
-/

namespace Backplane

namespace Dialog

variable {memory other : Memory} {host otherHost : Host} {start address : UInt16}
  {bytes : List UInt8}

/-! ## The rows of a dump -/

/-- A row without its line end. -/
def rowText (address : UInt16) (bytes : List UInt8) : List Char :=
  Hex.fixed 4 address.toNat ++ [':'] ++
    bytes.flatMap (fun value => ' ' :: Hex.fixed 2 value.toNat) ++ [' ', ' '] ++
    bytes.map dumpChar

theorem dumpRow_eq (address : UInt16) (bytes : List UInt8) :
    dumpRow address bytes = rowText address bytes ++ ['\r', '\n'] := rfl

theorem value_readBlock (memory : Memory) (host : Host) (address : UInt16) (count : Nat) :
    (readBlock memory host address count).value = memory.busBytes host address count := by
  induction count generalizing address with
  | zero => rfl
  | succ count ih =>
    rw [Memory.busBytes, List.range_succ_eq_map, List.map_cons, List.map_map]
    simp only [readBlock, Logged.value_bind, Logged.value_pure, ih, Memory.busBytes,
      Memory.add_one_add_ofNat]
    simp [Function.comp_def]

/-- The row of a dump with a number, without its line end. -/
def dumpLine (memory : Memory) (host : Host) (start : UInt16) (row : Nat) : List Char :=
  rowText (start + UInt16.ofNat (16 * row))
    (memory.busBytes host (start + UInt16.ofNat (16 * row)) 16)

theorem value_dumpRows (memory : Memory) (host : Host) (start : UInt16) (rows : Nat) :
    (dumpRows memory host start rows).value =
      (List.range rows).flatMap fun row => dumpLine memory host start row ++ ['\r', '\n'] := by
  induction rows generalizing start with
  | zero => rfl
  | succ rows ih =>
    have hlater (row : Nat) : start + UInt16.ofNat rowLength + UInt16.ofNat (16 * row) =
        start + UInt16.ofNat (16 * (row + 1)) := by
      rw [UInt16.add_assoc, ← UInt16.ofNat_add, rowLength, Nat.mul_succ, Nat.add_comm]
    rw [List.range_succ_eq_map, List.flatMap_cons, List.flatMap_map]
    simp only [dumpRows, Logged.value_bind, Logged.value_pure, ih, value_readBlock, dumpRow_eq,
      dumpLine, hlater]
    simp [rowLength]

/-- A dump shows what the bus reads, row by row. -/
theorem toList_dump (memory : Memory) (host : Host) (start : UInt16) :
    (dump memory host start).value.toList =
      ((List.range 16).map (dumpLine memory host start)).flatMap (· ++ ['\r', '\n']) := by
  simp only [dump, Logged.value_bind, Logged.value_pure, String.toList_ofList, value_dumpRows,
    rowCount, List.flatMap_map]

/-! ## Line ends -/

/-- Cuts a text at each line end. -/
def cutLines : List Char → List (List Char)
  | [] => [[]]
  | '\r' :: '\n' :: rest => [] :: cutLines rest
  | c :: rest =>
    match cutLines rest with
    | [] => [[c]]
    | line :: others => (c :: line) :: others

theorem cutLines_append {line : List Char} (h : '\r' ∉ line) (rest : List Char) :
    cutLines (line ++ '\r' :: '\n' :: rest) = line :: cutLines rest := by
  induction line with
  | nil => rw [List.nil_append, cutLines]
  | cons c line ih =>
    rw [List.mem_cons, not_or] at h
    obtain ⟨hc, hline⟩ := h
    rw [List.cons_append, cutLines, ih hline]
    rintro rest rfl
    exact absurd rfl hc

/-- A text of lines, each with its end, is cut into the lines. -/
theorem cutLines_flatMap {lines : List (List Char)} (h : ∀ line ∈ lines, '\r' ∉ line) :
    cutLines (lines.flatMap (· ++ ['\r', '\n'])) = lines ++ [[]] := by
  induction lines with
  | nil => rfl
  | cons line lines ih =>
    have hfirst := h line List.mem_cons_self
    have hrest := ih fun other hmem => h other (List.mem_cons_of_mem _ hmem)
    simp only [List.flatMap_cons, List.append_assoc, List.cons_append, List.nil_append,
      cutLines_append hfirst, hrest]

/-! ## Reading a row -/

/-- What a row says. -/
structure Row where
  address : UInt16
  bytes : List UInt8
  /-- The column of characters. -/
  shown : List Char
deriving DecidableEq, Repr

/-- Reads columns of two digits, each behind a blank, and gives what follows them. -/
def readColumns? : (count : Nat) → List Char → Option (List UInt8 × List Char)
  | 0, rest => some ([], rest)
  | count + 1, ' ' :: high :: low :: rest =>
    match Numeral.digits 16 0x100 0 [high, low], readColumns? count rest with
    | .ok value, some (values, rest) => some (UInt8.ofNat value :: values, rest)
    | _, _ => none
  | _ + 1, _ => none

/-- Reads a row: four digits and a colon, sixteen columns, and behind two blanks the characters. -/
def readRow? : List Char → Option Row
  | a :: b :: c :: d :: ':' :: rest =>
    match Numeral.digits 16 0x10000 0 [a, b, c, d], readColumns? 16 rest with
    | .ok address, some (bytes, ' ' :: ' ' :: shown) =>
      some ⟨UInt16.ofNat address, bytes, shown⟩
    | _, _ => none
  | _ => none

theorem readColumns?_flatMap (bytes : List UInt8) (rest : List Char) :
    readColumns? bytes.length
      (bytes.flatMap (fun value => ' ' :: Hex.fixed 2 value.toNat) ++ rest) =
      some (bytes, rest) := by
  induction bytes with
  | nil => rfl
  | cons value bytes ih =>
    obtain ⟨high, low, htext⟩ : ∃ high low, Hex.fixed 2 value.toNat = [high, low] := ⟨_, _, rfl⟩
    have hdigits : Numeral.digits 16 0x100 0 [high, low] = .ok value.toNat := by
      rw [← htext]
      exact Numeral.digits_fixed_of_lt value.toNat_lt (by decide)
    rw [List.flatMap_cons, htext]
    simp only [List.length_cons, List.cons_append, List.nil_append, readColumns?, ih, hdigits,
      UInt8.ofNat_toNat]

/-- A row says at which address it begins and what its bytes are, and shows their characters. -/
theorem readRow?_rowText (address : UInt16) (h : bytes.length = 16) :
    readRow? (rowText address bytes) = some ⟨address, bytes, bytes.map dumpChar⟩ := by
  obtain ⟨a, b, c, d, htext⟩ : ∃ a b c d, Hex.fixed 4 address.toNat = [a, b, c, d] :=
    ⟨_, _, _, _, rfl⟩
  have hdigits : Numeral.digits 16 0x10000 0 [a, b, c, d] = .ok address.toNat := by
    rw [← htext]
    exact Numeral.digits_fixed_of_lt address.toNat_lt (by decide)
  have hcolumns := readColumns?_flatMap bytes (' ' :: ' ' :: bytes.map dumpChar)
  rw [h] at hcolumns
  rw [rowText, htext]
  simp only [List.cons_append, List.nil_append, List.append_assoc, readRow?, hdigits, hcolumns,
    UInt16.ofNat_toNat]

/-! ## Characters -/

/-- A character that takes up one cell of a terminal. -/
def IsShown (c : Char) : Prop := 0x20 ≤ c.toNat ∧ c.toNat ≤ 0x7E

instance : DecidablePred IsShown := fun c =>
  inferInstanceAs (Decidable (0x20 ≤ c.toNat ∧ c.toNat ≤ 0x7E))

theorem isShown_digit {n : Nat} (h : n < 16) : IsShown (Hex.digit n) := by
  interval_cases n <;> decide

theorem isShown_of_mem_fixed {width n : Nat} {c : Char} (h : c ∈ Hex.fixed width n) :
    IsShown c := by
  obtain ⟨d, hd, rfl⟩ := Numeral.exists_digit_of_mem_fixed h
  exact isShown_digit hd

/-- The character of a byte: its own, or a dot if it has none that can be shown. -/
theorem dumpChar_eq (value : UInt8) :
    dumpChar value =
      if 0x20 ≤ value ∧ value ≤ 0x7E then Char.ofNat value.toNat else '.' := by
  unfold dumpChar isPrintable
  simp only [Bool.and_eq_true, decide_eq_true_eq]

theorem isShown_dumpChar (value : UInt8) : IsShown (dumpChar value) := by
  have hall : ∀ n : Fin 256, IsShown (dumpChar (UInt8.ofNat n.val)) := by decide +kernel
  simpa only [UInt8.ofNat_toNat] using hall ⟨value.toNat, value.toNat_lt⟩

/-- Whatever the bytes, a row has no character but those that are shown. -/
theorem isShown_of_mem_rowText {c : Char} (h : c ∈ rowText address bytes) : IsShown c := by
  have hblank : IsShown ' ' := by decide
  have hcolon : IsShown ':' := by decide
  simp only [rowText, List.mem_append, List.mem_flatMap, List.mem_cons, List.mem_map,
    List.not_mem_nil, or_false] at h
  rcases h with (((hlabel | rfl) | ⟨value, -, rfl | hcolumn⟩) | rfl | rfl) | ⟨value, -, rfl⟩
  · exact isShown_of_mem_fixed hlabel
  · exact hcolon
  · exact hblank
  · exact isShown_of_mem_fixed hcolumn
  · exact hblank
  · exact hblank
  · exact isShown_dumpChar value

/-! ## Reading a dump -/

/-- A dump is cut into its rows. -/
theorem cutLines_dump (memory : Memory) (host : Host) (start : UInt16) :
    cutLines (dump memory host start).value.toList =
      (List.range 16).map (dumpLine memory host start) ++ [[]] := by
  rw [toList_dump, cutLines_flatMap]
  intro line hline hreturn
  obtain ⟨row, -, rfl⟩ := List.mem_map.1 hline
  exact absurd (isShown_of_mem_rowText hreturn) (by decide)

/-- What a row of a dump is to those who read it. -/
structure ShowsRow (memory : Memory) (host : Host) (address : UInt16) (line : List Char) :
    Prop where
  isShown : ∀ c ∈ line, IsShown c
  /-- It begins with its address. -/
  label : (Hex.word address).toList ++ [':'] <+: line
  /-- It says what the bus reads at sixteen addresses, and shows a character for each. -/
  reads : ∃ shown, readRow? line = some ⟨address, memory.busBytes host address 16, shown⟩ ∧
    shown.length = 16 ∧ ∀ (i : Nat) (value : UInt8),
      (memory.busBytes host address 16)[i]? = some value →
        shown[i]? = some (if 0x20 ≤ value ∧ value ≤ 0x7E then Char.ofNat value.toNat else '.')

/-- A dump can be read back. -/
structure ReadsBack (memory : Memory) (host : Host) (start : UInt16) : Prop where
  /-- Cut at its line ends it is sixteen rows, with nothing behind the last. -/
  rows : ∃ lines, cutLines (dump memory host start).value.toList = lines ++ [[]] ∧
    lines.length = 16 ∧ ∀ row line, lines[row]? = some line →
      ShowsRow memory host (start + UInt16.ofNat (16 * row)) line
  /-- Only a memory that reads the same has the same dump. -/
  eq_iff : ∀ other otherHost,
    (dump other otherHost start).value = (dump memory host start).value ↔
      ∀ i < 256, (other.read otherHost (start + UInt16.ofNat i)).value =
        (memory.read host (start + UInt16.ofNat i)).value

theorem readRow?_dumpLine (memory : Memory) (host : Host) (start : UInt16) (row : Nat) :
    readRow? (dumpLine memory host start row) =
      some ⟨start + UInt16.ofNat (16 * row),
        memory.busBytes host (start + UInt16.ofNat (16 * row)) 16,
        (memory.busBytes host (start + UInt16.ofNat (16 * row)) 16).map dumpChar⟩ :=
  readRow?_rowText _ (Memory.length_busBytes _ _ _ _)

theorem showsRow_dumpLine (memory : Memory) (host : Host) (start : UInt16) (row : Nat) :
    ShowsRow memory host (start + UInt16.ofNat (16 * row)) (dumpLine memory host start row) := by
  refine ⟨fun c => isShown_of_mem_rowText, ?_, _, readRow?_dumpLine memory host start row, ?_, ?_⟩
  · rw [Hex.word, String.toList_ofList, dumpLine, rowText, List.append_assoc, List.append_assoc]
    exact List.prefix_append _ _
  · rw [List.length_map, Memory.length_busBytes]
  · intro i value hvalue
    rw [List.getElem?_map, hvalue, Option.map_some, dumpChar_eq]

/-- The address of a byte, by its row and its column. -/
theorem add_row_add_column (start : UInt16) (i : Nat) :
    start + UInt16.ofNat (16 * (i / 16)) + UInt16.ofNat (i % 16) = start + UInt16.ofNat i := by
  rw [UInt16.add_assoc, ← UInt16.ofNat_add, Nat.div_add_mod]

/-- A dump can be read back, whatever the memory and wherever it starts. -/
theorem readsBack (memory : Memory) (host : Host) (start : UInt16) :
    ReadsBack memory host start := by
  constructor
  · -- The dump is sixteen lines, and each shows its row.
    refine ⟨_, cutLines_dump memory host start, by simp, ?_⟩
    intro row line hline
    obtain ⟨hrow, rfl⟩ : row < 16 ∧ dumpLine memory host start row = line := by
      simpa [List.getElem?_map, List.getElem?_eq_some_iff] using hline
    exact showsRow_dumpLine memory host start row
  · intro other otherHost
    constructor
    · -- Equal dumps have equal lines, and each line can be read back.
      intro hdump i hi
      have hlines := congrArg (fun text : String => cutLines text.toList) hdump
      simp only [cutLines_dump, List.append_cancel_right_eq] at hlines
      have hline := List.map_inj_left.1 hlines (i / 16) (List.mem_range.2 (by omega))
      have hrow := congrArg readRow? hline
      simp only [readRow?_dumpLine, Option.some.injEq, Row.mk.injEq] at hrow
      have hi : i % 16 < 16 := Nat.mod_lt i (by decide)
      have hcolumn := congrArg (·[i % 16]?) hrow.2.1
      simpa only [Memory.getElem?_busBytes hi, add_row_add_column, Option.some.injEq] using hcolumn
    · -- Equal bytes are shown alike.
      intro hreads
      have hline : ∀ row < 16, dumpLine other otherHost start row =
          dumpLine memory host start row := by
        intro row hrow
        have hbytes : other.busBytes otherHost (start + UInt16.ofNat (16 * row)) 16 =
            memory.busBytes host (start + UInt16.ofNat (16 * row)) 16 := by
          apply List.map_congr_left
          intro i hi
          rw [UInt16.add_assoc, ← UInt16.ofNat_add]
          have hi := List.mem_range.1 hi
          exact hreads _ (by omega)
        rw [dumpLine, dumpLine, hbytes]
      have hlines := List.map_congr_left fun row hrow => hline row (List.mem_range.1 hrow)
      apply String.toList_inj.1
      rw [toList_dump, toList_dump, hlines]

end Dialog

end Backplane
