import Backplane.CommandLine.Arguments
import Backplane.Proofs.Dialog.TypeAhead
import Mathlib.Data.List.Forall2
import Mathlib.Data.Nat.Digits.Defs
import Mathlib.Tactic.Ring

/-!
# The grammar of numbers

Numbers are typed as options and as answers of the dialog, and everywhere by the same few rules.
The rules are written out here as a grammar: which characters are figures (`IsFigure`), which texts
are digits, of which number (`IsDigits`), and what may stand in front of the digits (`IsNumeral`,
`IsSize`).  A number is the value of its digits by their positions, so nothing in the grammar has a
width.

`readsGrammar` says that the readers accept the texts of the grammar whose numbers fit, and no
others.  A reader goes through a text once, from the left, and asks after each digit whether what
it has read so far still fits.  It may ask that early, because the number of the whole text is
never less (`digits_eq_ok_iff`).  So zeros in front can be as many as they like, and a text that is
refused has no number that fits.

## Grammar and readers

The grammar is about lists of characters and natural numbers, and the readers are functions that
stop at a bound.  They are related at one place, `digits_eq_ok_iff`, for any radix up to sixteen and
any bound; the sizes of the command line, its bytes, and the bytes and addresses of the dialog are
that reader with a mark, a sign, a radix and a bound.

Both directions are needed.  A text of the grammar is read with its number, and a text that is read
is one of the grammar, so a blank, a second sign, a mark in the wrong place or no digit at all are
refused.

## Written numbers

A number can be written in decimal, and in hexadecimal with letters of either case, behind its mark.
Writing is `toString` and `Nat.toDigits` of the library, and that they write digits of the number is
shown by induction on the number (`isDigits_toDigits`, `isDigits_toString`).
-/

namespace Backplane

namespace Numeral

/-! ## The grammar -/

/-- A character is the figure of a number below sixteen, in lower case or in upper case. -/
def IsFigure (c : Char) (d : Nat) : Prop :=
  "0123456789abcdef".toList[d]? = some c ∨ "0123456789ABCDEF".toList[d]? = some c

instance (c : Char) (d : Nat) : Decidable (IsFigure c d) := inferInstanceAs (Decidable (_ ∨ _))

/-- The digits of a value in a radix, most significant first, each by its figure.  The value is that
of the positions, so zeros in front do not count. -/
def HasDigits (radix : Nat) (text : List Char) (ds : List Nat) (value : Nat) : Prop :=
  List.Forall₂ (fun c d => IsFigure c d ∧ d < radix) text ds ∧
    value = Nat.ofDigits radix ds.reverse

/-- One or more digits, with their value. -/
def IsDigits (radix : Nat) (text : List Char) (value : Nat) : Prop :=
  text ≠ [] ∧ ∃ ds, HasDigits radix text ds value

/-- Digits, with a plus sign before them or without. -/
def IsNumeral (radix : Nat) (text : List Char) (value : Nat) : Prop :=
  IsDigits radix text value ∨ ∃ digits, text = '+' :: digits ∧ IsDigits radix digits value

/-- A decimal numeral, or a hexadecimal one behind its mark. -/
def IsSize (text : List Char) (value : Nat) : Prop :=
  IsNumeral 10 text value ∨
    ∃ numeral, (text = '0' :: 'x' :: numeral ∨ text = '0' :: 'X' :: numeral) ∧
      IsNumeral 16 numeral value

variable {radix bound value n : Nat} {text : List Char} {c : Char} {d : Nat}

/-! ## Figures -/

theorem mem_of_isFigure (h : IsFigure c d) : c ∈ "0123456789abcdefABCDEF".toList := by
  have hlower : "0123456789abcdef".toList ⊆ "0123456789abcdefABCDEF".toList := by decide
  have hupper : "0123456789ABCDEF".toList ⊆ "0123456789abcdefABCDEF".toList := by decide
  rcases h with h | h
  · exact hlower (List.mem_of_getElem? h)
  · exact hupper (List.mem_of_getElem? h)

/-- Only ASCII characters have a figure's value. -/
theorem toNat_lt_of_figure? (h : figure? c = some d) : c.toNat < 128 := by
  have hle {a b : Char} (hab : a ≤ b) : a.toNat ≤ b.toNat := hab
  unfold figure? at h
  split at h
  · exact Nat.lt_of_le_of_lt (hle (And.right ‹_›)) (by decide)
  · split at h
    · exact Nat.lt_of_le_of_lt (hle (And.right ‹_›)) (by decide)
    · split at h
      · exact Nat.lt_of_le_of_lt (hle (And.right ‹_›)) (by decide)
      · exact absurd h (by simp)

theorem figure?_eq_some_iff (hd : d < 16) : figure? c = some d ↔ IsFigure c d := by
  have hall : ∀ n : Fin 128, ∀ d : Fin 16,
      figure? (Char.ofNat n.val) = some d.val ↔ IsFigure (Char.ofNat n.val) d.val := by
    decide +kernel
  have hascii (hc : c.toNat < 128) : figure? c = some d ↔ IsFigure c d := by
    simpa only [Char.ofNat_toNat] using hall ⟨c.toNat, hc⟩ ⟨d, hd⟩
  constructor
  · intro h
    exact (hascii (toNat_lt_of_figure? h)).1 h
  · intro h
    have hall : "0123456789abcdefABCDEF".toList.all (·.toNat < 128) = true := by decide
    have hc := List.all_eq_true.1 hall c (mem_of_isFigure h)
    exact (hascii (of_decide_eq_true hc)).2 h

theorem digit?_eq_some_iff (hradix : radix ≤ 16) :
    digit? radix c = some d ↔ IsFigure c d ∧ d < radix := by
  rw [digit?, Option.filter_eq_some_iff, decide_eq_true_eq]
  constructor
  · rintro ⟨hfigure, hlt⟩
    exact ⟨(figure?_eq_some_iff (by omega)).1 hfigure, hlt⟩
  · rintro ⟨hfigure, hlt⟩
    exact ⟨(figure?_eq_some_iff (by omega)).2 hfigure, hlt⟩

/-! ## Digits -/

/-- A digit in front counts for all the places behind it. -/
theorem ofDigits_reverse_cons (radix d : Nat) (ds : List Nat) :
    Nat.ofDigits radix (d :: ds).reverse =
      d * radix ^ ds.length + Nat.ofDigits radix ds.reverse := by
  rw [List.reverse_cons, Nat.ofDigits_append, Nat.ofDigits_singleton, List.length_reverse]
  ring

/-- A value that is read on to a text fits at the end if and only if it fits all the way. -/
theorem digits_eq_ok_iff (hradix : 0 < radix) (hhex : radix ≤ 16) (hvalue : value < bound) :
    digits radix bound value text = .ok n ↔
      n < bound ∧ ∃ ds rest, HasDigits radix text ds rest ∧
        n = value * radix ^ ds.length + rest := by
  induction text generalizing value with
  | nil =>
    -- The text is over: no digits are left, and the value is what it is.
    simp only [digits, HasDigits, Except.ok.injEq, List.forall₂_nil_left_iff]
    constructor
    · rintro rfl
      exact ⟨hvalue, [], 0, ⟨rfl, rfl⟩, by simp⟩
    · rintro ⟨-, ds, rest, ⟨rfl, rfl⟩, rfl⟩
      simp
  | cons c rest ih =>
    -- The first digit moves the value one place up.
    have hsplit (d : Nat) (ds : List Nat) :
        value * radix ^ (d :: ds).length + Nat.ofDigits radix (d :: ds).reverse =
          (value * radix + d) * radix ^ ds.length + Nat.ofDigits radix ds.reverse := by
      rw [ofDigits_reverse_cons, List.length_cons]
      ring
    simp only [digits]
    constructor
    · -- What was read fits, so it fitted after the first digit too.
      intro h
      split at h
      · exact absurd h (by simp)
      · rename_i d hd
        split at h
        · obtain ⟨hn, ds, _, ⟨hds, rfl⟩, hsum⟩ := (ih ‹_›).1 h
          refine ⟨hn, d :: ds, _, ⟨.cons ((digit?_eq_some_iff hhex).1 hd) hds, rfl⟩, ?_⟩
          rw [hsum, hsplit]
        · exact absurd h (by simp)
    · -- What fits in the end fits after the first digit, because reading on only makes it larger.
      rintro ⟨hn, _, _, ⟨hds, rfl⟩, hsum⟩
      obtain ⟨d, ds, hd, hrest, rfl⟩ := List.forall₂_cons_left_iff.1 hds
      have hpos : 0 < radix ^ ds.length := Nat.pow_pos hradix
      rw [hsplit] at hsum
      have hfits : value * radix + d < bound := by
        have := Nat.le_mul_of_pos_right (value * radix + d) hpos
        omega
      rw [(digit?_eq_some_iff hhex).2 hd]
      simp only [if_pos hfits]
      exact (ih hfits).2 ⟨hn, ds, _, ⟨hrest, rfl⟩, hsum⟩

theorem digits_zero_eq_ok_iff (hradix : 0 < radix) (hhex : radix ≤ 16) (hbound : 0 < bound) :
    digits radix bound 0 text = .ok n ↔ n < bound ∧ ∃ ds, HasDigits radix text ds n := by
  rw [digits_eq_ok_iff hradix hhex hbound]
  simp only [Nat.zero_mul, Nat.zero_add]
  constructor
  · rintro ⟨hn, ds, rest, hds, rfl⟩
    exact ⟨hn, ds, hds⟩
  · rintro ⟨hn, ds, hds⟩
    exact ⟨hn, ds, n, hds, rfl⟩

theorem not_hasDigits_cons (hc : c ∉ "0123456789abcdefABCDEF".toList) (ds : List Nat) :
    ¬HasDigits radix (c :: text) ds n := by
  rintro ⟨hds, -⟩
  obtain ⟨d, rest, hd, -⟩ := List.forall₂_cons_left_iff.1 hds
  exact hc (mem_of_isFigure hd.1)

theorem not_isDigits_plus : ¬IsDigits radix ('+' :: text) n := by
  rintro ⟨-, ds, hds⟩
  exact not_hasDigits_cons (by decide) ds hds

theorem parse_eq_ok_iff (hradix : 0 < radix) (hhex : radix ≤ 16) (hbound : 0 < bound) :
    parse radix bound text = .ok n ↔ n < bound ∧ IsNumeral radix text n := by
  have hdigits {text : List Char} (hne : text ≠ []) :
      digits radix bound 0 text = .ok n ↔ n < bound ∧ IsDigits radix text n := by
    rw [digits_zero_eq_ok_iff hradix hhex hbound, IsDigits, and_iff_right hne]
  have hplain (hplus : ∀ digits, text ≠ '+' :: digits) :
      IsNumeral radix text n ↔ IsDigits radix text n :=
    or_iff_left fun ⟨digits, heq, _⟩ => hplus digits heq
  have hsigned (rest : List Char) :
      IsNumeral radix ('+' :: rest) n ↔ IsDigits radix rest n := by
    simp [IsNumeral, not_isDigits_plus]
  unfold parse
  split
  · simp [IsNumeral, IsDigits]
  · rw [hsigned]
    simp [IsDigits]
  · rename_i rest hrest
    rw [hsigned, hdigits fun heq => hrest (heq ▸ rfl)]
  · rename_i hempty _ hplus
    rw [hplain hplus, hdigits hempty]

/-! ## Sizes -/

/-- A mark is no beginning of a decimal numeral. -/
theorem not_isNumeral_marked {mark : Char} (hmark : mark ∉ "0123456789abcdefABCDEF".toList) :
    ¬IsNumeral radix ('0' :: mark :: text) n := by
  rintro (⟨-, ds, hds, -⟩ | ⟨digits, heq, -⟩)
  · obtain ⟨_, _, -, hrest, -⟩ := List.forall₂_cons_left_iff.1 hds
    obtain ⟨d, _, hd, -⟩ := List.forall₂_cons_left_iff.1 hrest
    exact hmark (mem_of_isFigure hd.1)
  · exact absurd (List.cons.inj heq).1 (by decide)

theorem size?_eq_ok_iff {text : String} :
    size? text = .ok n ↔ n < 2 ^ 64 ∧ IsSize text.toList n := by
  have hhex (numeral : List Char) : parse 16 0x10000000000000000 numeral = .ok n ↔
      n < 2 ^ 64 ∧ IsNumeral 16 numeral n :=
    parse_eq_ok_iff (by decide) (by decide) (by decide)
  have hdecimal : parse 10 0x10000000000000000 text.toList = .ok n ↔
      n < 2 ^ 64 ∧ IsNumeral 10 text.toList n :=
    parse_eq_ok_iff (by decide) (by decide) (by decide)
  unfold size? IsSize
  split
  · rename_i rest htext
    have hmarked : ¬IsNumeral 10 ('0' :: 'x' :: rest) n := not_isNumeral_marked (by decide)
    rw [hhex, htext]
    simp [hmarked]
  · rename_i rest htext
    have hmarked : ¬IsNumeral 10 ('0' :: 'X' :: rest) n := not_isNumeral_marked (by decide)
    rw [hhex, htext]
    simp [hmarked]
  · rename_i hlower hupper
    rw [hdecimal, or_iff_left]
    rintro ⟨numeral, heq | heq, -⟩
    · exact hlower numeral heq
    · exact hupper numeral heq

/-- The sign belongs to the digits, so it stands behind the mark. -/
example : (size? "0x+1A").toOption = some 26 ∧ (size? "+0x1A").toOption = none := by decide

/-! ## Words -/

/-- A hexadecimal numeral that fits a type of words is read as the word of its number. -/
theorem map_parse_eq_ok_iff {α : Type} {ofNat : Nat → α} {toNat : α → Nat} {word : α}
    (hlt : ∀ word, toNat word < bound) (hofNat : ∀ word, ofNat (toNat word) = word)
    (htoNat : ∀ n < bound, toNat (ofNat n) = n) :
    (parse 16 bound text).map ofNat = .ok word ↔ IsNumeral 16 text (toNat word) := by
  have hparse (n : Nat) : parse 16 bound text = .ok n ↔ n < bound ∧ IsNumeral 16 text n :=
    parse_eq_ok_iff (by decide) (by decide) (Nat.zero_lt_of_lt (hlt word))
  constructor
  · intro h
    cases hread : parse 16 bound text with
    | error cause => simp [hread, Except.map] at h
    | ok n =>
      obtain ⟨hn, hnumeral⟩ := (hparse n).1 hread
      rw [hread] at h
      obtain rfl : ofNat n = word := Except.ok.inj h
      rwa [htoNat n hn]
  · intro h
    rw [(hparse _).2 ⟨hlt word, h⟩]
    exact congrArg Except.ok (hofNat word)

theorem byte?_eq_ok_iff {text : String} {value : UInt8} :
    byte? text = .ok value ↔ IsNumeral 16 text.toList value.toNat :=
  map_parse_eq_ok_iff UInt8.toNat_lt @UInt8.ofNat_toNat fun _ => UInt8.toNat_ofNat_of_lt'

theorem word?_eq_ok_iff {text : String} {address : UInt16} :
    word? text = .ok address ↔ IsNumeral 16 text.toList address.toNat :=
  map_parse_eq_ok_iff UInt16.toNat_lt @UInt16.ofNat_toNat fun _ => UInt16.toNat_ofNat_of_lt'

/-! ## Option values -/

theorem readSize_eq_ok_iff {text : String} :
    CommandLine.readSize text = .ok n ↔ n < 2 ^ 64 ∧ IsSize text.toList n := by
  rw [← size?_eq_ok_iff, CommandLine.readSize, mapError_eq_ok_iff]

theorem readHexByte_eq_ok_iff {text : String} {value : UInt8} :
    CommandLine.readHexByte text = .ok value ↔ IsNumeral 16 text.toList value.toNat := by
  rw [← byte?_eq_ok_iff, CommandLine.readHexByte, mapError_eq_ok_iff]

/-! ## Written numbers -/

theorem IsDigits.append (h : IsDigits radix text value) (hfigure : IsFigure c d)
    (hd : d < radix) : IsDigits radix (text ++ [c]) (value * radix + d) := by
  obtain ⟨-, ds, hds, rfl⟩ := h
  refine ⟨by simp, ds ++ [d], List.rel_append hds (.cons ⟨hfigure, hd⟩ .nil), ?_⟩
  rw [List.reverse_append, List.reverse_singleton, List.singleton_append, Nat.ofDigits_cons]
  ring

/-- Zeros in front do not change the value. -/
theorem IsDigits.zeros (h : IsDigits radix text value) (hradix : 0 < radix) (count : Nat) :
    IsDigits radix (List.replicate count '0' ++ text) value := by
  induction count with
  | zero => exact h
  | succ count ih =>
    obtain ⟨-, ds, hds, hvalue⟩ := ih
    refine ⟨by simp [List.replicate_succ], 0 :: ds, .cons ⟨by decide, hradix⟩ hds, ?_⟩
    rw [ofDigits_reverse_cons, Nat.zero_mul, Nat.zero_add, hvalue]

/-- A number is written in its digits, in whatever letters. -/
theorem isDigits_map_toDigits (hradix : 1 < radix) {letter : Char → Char}
    (hletter : ∀ d < radix, IsFigure (letter d.digitChar) d) (n : Nat) :
    IsDigits radix ((Nat.toDigits radix n).map letter) n := by
  induction n using Nat.strongRecOn with
  | _ n ih =>
    by_cases hn : n < radix
    · rw [Nat.toDigits_of_lt_base hn]
      refine ⟨by simp, [n], .cons ⟨hletter n hn, hn⟩ .nil, by simp⟩
    · have hlt : n / radix < n := Nat.div_lt_self (by omega) hradix
      have hlast : n % radix < radix := Nat.mod_lt _ (by omega)
      have hfront := (ih _ hlt).append (hletter _ hlast) hlast
      rw [Nat.div_add_mod'] at hfront
      rwa [Nat.toDigits_of_base_le hradix (Nat.not_lt.1 hn), List.map_append, List.map_singleton]

theorem isDigits_toDigits (hradix : 1 < radix)
    (hfigures : ∀ d < radix, IsFigure d.digitChar d) (n : Nat) :
    IsDigits radix (Nat.toDigits radix n) n := by
  have hdigits := @isDigits_map_toDigits radix hradix id hfigures n
  rwa [List.map_id] at hdigits

theorem isDigits_toString (n : Nat) : IsDigits 10 (toString n).toList n := by
  rw [Nat.toString_eq_repr, Nat.toList_repr]
  exact isDigits_toDigits (by decide) (by decide) n

theorem isDigits_lower (n : Nat) : IsDigits 16 (Nat.toDigits 16 n) n :=
  isDigits_toDigits (by decide) (by decide) n

theorem isDigits_upper (n : Nat) : IsDigits 16 ((Nat.toDigits 16 n).map Char.toUpper) n :=
  @isDigits_map_toDigits 16 (by decide) Char.toUpper (by decide) n

/-! ## Answers of the dialog -/

/-- What becomes of an answer to a question for a number. -/
structure AnswersNumber (machine : Machine) (host : Host) (text : String) : Prop where
  /-- A numeral that fits a byte is what the front panel shows from then on. -/
  panel : ∀ value : UInt8, IsNumeral 16 text.toList value.toNat →
    (Dialog.complete machine host .panelValue text).value =
      .waiting (Dialog.showMenu
        (Dialog.say { machine with frontPanel := { value } } "\r\n") host)
  /-- Any other text is refused. -/
  panelRefused : (∀ value : UInt8, ¬IsNumeral 16 text.toList value.toNat) →
    (Dialog.complete machine host .panelValue text).value =
      .waiting (Dialog.showMenu
        (Dialog.say (Dialog.say machine "Invalid value.\r\n") "\r\n") host)
  /-- A numeral that fits an address is where the dump starts. -/
  address : ∀ start : UInt16, IsNumeral 16 text.toList start.toNat →
    (Dialog.complete machine host .address text).value =
      .waiting (Dialog.showMenu
        (Dialog.say (Dialog.say machine (Dialog.dump machine.memory host start).value) "\r\n")
        host)
  /-- Any other text is refused. -/
  addressRefused : (∀ start : UInt16, ¬IsNumeral 16 text.toList start.toNat) →
    (Dialog.complete machine host .address text).value =
      .waiting (Dialog.showMenu
        (Dialog.say (Dialog.say machine "Invalid address.\r\n") "\r\n") host)

theorem answersNumber (machine : Machine) (host : Host) (text : String) :
    AnswersNumber machine host text where
  panel value h := by
    have hsilent (machine : Machine) : Dialog.say machine "" = machine := Dialog.send_nil machine
    simp [Dialog.complete, Dialog.act, byte?_eq_ok_iff.2 h, Machine.setFrontPanel, hsilent]
  panelRefused h := by
    cases hread : byte? text with
    | error cause => simp [Dialog.complete, Dialog.act, hread]
    | ok value => exact absurd (byte?_eq_ok_iff.1 hread) (h value)
  address start h := by
    simp [Dialog.complete, Dialog.act, word?_eq_ok_iff.2 h]
  addressRefused h := by
    cases hread : word? text with
    | error cause => simp [Dialog.complete, Dialog.act, hread]
    | ok start => exact absurd (word?_eq_ok_iff.1 hread) (h start)

/-! ## Readers and the grammar -/

/-- Which numbers a text is read as, by the command line and by the dialog.  Each field is an
equivalence or goes through both cases, so it says as well which texts are refused. -/
structure ReadsText (text : String) : Prop where
  /-- A size is a number of 64 bits. -/
  size : ∀ n, CommandLine.readSize text = .ok n ↔ n < 2 ^ 64 ∧ IsSize text.toList n
  /-- A byte is hexadecimal, and has no mark. -/
  byte : ∀ value, CommandLine.readHexByte text = .ok value ↔
    IsNumeral 16 text.toList value.toNat
  /-- The dialog reads bytes and addresses the same way. -/
  answers : ∀ machine host, AnswersNumber machine host text

/-- How a number can be written so that it is read back. -/
structure ReadsWritten (n : Nat) : Prop where
  decimal : n < 2 ^ 64 → CommandLine.readSize (toString n) = .ok n
  lower : n < 2 ^ 64 →
    CommandLine.readSize ("0x" ++ String.ofList (Nat.toDigits 16 n)) = .ok n
  upper : n < 2 ^ 64 →
    CommandLine.readSize ("0x" ++ String.ofList ((Nat.toDigits 16 n).map Char.toUpper)) = .ok n
  /-- Any number of zeros may stand in front of the digits. -/
  zeros : n < 2 ^ 64 → ∀ count digits, IsDigits 10 digits n →
    CommandLine.readSize (String.ofList (List.replicate count '0' ++ digits)) = .ok n
  zerosAfterMark : n < 2 ^ 64 → ∀ mark ∈ ["0x", "0X"], ∀ count digits, IsDigits 16 digits n →
    CommandLine.readSize (mark ++ String.ofList (List.replicate count '0' ++ digits)) = .ok n
  zerosOfByte : ∀ value : UInt8, value.toNat = n → ∀ count digits, IsDigits 16 digits n →
    CommandLine.readHexByte (String.ofList (List.replicate count '0' ++ digits)) = .ok value

theorem readSize_marked (hn : n < 2 ^ 64) {mark : String} (hmark : mark ∈ ["0x", "0X"])
    {digits : List Char} (hdigits : IsDigits 16 digits n) :
    CommandLine.readSize (mark ++ String.ofList digits) = .ok n := by
  refine readSize_eq_ok_iff.2 ⟨hn, .inr ⟨digits, ?_, .inl hdigits⟩⟩
  rcases List.mem_pair.1 hmark with rfl | rfl <;> simp

/-- Whatever the text, a number is read from it just if it is one by the grammar and fits, and
whatever the number, it is read from each of the ways to write it. -/
theorem readsGrammar (text : String) (n : Nat) : ReadsText text ∧ ReadsWritten n := by
  refine ⟨⟨fun _ => readSize_eq_ok_iff, fun _ => readHexByte_eq_ok_iff,
    fun machine host => answersNumber machine host text⟩, ?_⟩
  constructor
  · intro hn
    exact readSize_eq_ok_iff.2 ⟨hn, .inl (.inl (isDigits_toString n))⟩
  · intro hn
    exact readSize_marked hn (by simp) (isDigits_lower n)
  · intro hn
    exact readSize_marked hn (by simp) (isDigits_upper n)
  · intro hn count digits hdigits
    refine readSize_eq_ok_iff.2 ⟨hn, .inl (.inl ?_)⟩
    rw [String.toList_ofList]
    exact hdigits.zeros (by decide) count
  · intro hn mark hmark count digits hdigits
    exact readSize_marked hn hmark (hdigits.zeros (by decide) count)
  · rintro value rfl count digits hdigits
    refine readHexByte_eq_ok_iff.2 (.inl ?_)
    rw [String.toList_ofList]
    exact hdigits.zeros (by decide) count

end Numeral

end Backplane
