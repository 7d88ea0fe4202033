import Backplane.Proofs.Dialog.TypeAhead
import Mathlib.Data.List.Induction
import Mathlib.Data.Nat.Find
import Mathlib.Logic.Function.Basic

/-!
# What the line editor shows

The editor sends bytes and never looks at the terminal, and the person at the terminal sees cells
and never the text.  This file says that the two agree.  `Display` is a terminal that does what the
editor counts on: a printable byte overwrites the cell under the cursor and moves on, and a
backspace moves back and erases nothing.  After every key it shows the text that has been typed and
nothing else, with the cursor behind it (`Drafted.shows`), and the cursor has never been left of
where the line began.

Which text that is can be read off the keys (`edited`), and so can the key that completes the line
(`EndsLine`).  `exists_editsLine` cuts the keys of a line off any input, and says what the editor
does with them: it sends what was shown, it stops behind the key that completes the line, and the
text that was shown is what it gives back.

The invariant is `Drafted`, and one key keeps it as long as the line has not ended
(`Drafted.press`).

## Limits

The prompts of the dialog have limits of their own, and `readLine` is the editor for any limit: it
presses key after key and gives back the text, what was sent, and the input that it did not take.
A session does not read lines in one go, because it is fed byte by byte and has to wait where its
input ends.  Fed with an input it does what `readLine` does with the limit of its prompt, and hands
the text on as the answer (`value_run_eq_readLine`).  So all that is shown about reading a line
with any limit from 1 on is true of what the dialog does.

## Display and editor

The display is not a part of the machine.  It is defined here to say what the bytes mean that the
editor sends, and it does no more than the editor needs: a backspace moves the cursor and does not
erase, so the editor has to send a blank over the erased character and step back once more.

A line never wraps on the display.  Cells are numbered by integers and go on in both directions;
that the cursor stays where the line is, and between the prompt and the last character, is what
`Drafted.inside` and `Drafted.shows` say.
-/

namespace Backplane

namespace Dialog

/-! ## The terminal -/

/-- A line of a terminal.  Column zero is where the line of text began. -/
@[ext]
structure Display where
  cells : Int → UInt8
  cursor : Int

namespace Display

/-- What the terminal does with a byte. -/
def receive (display : Display) (value : UInt8) : Display :=
  if value = 0x08 then { display with cursor := display.cursor - 1 }
  else if 0x20 ≤ value ∧ value ≤ 0x7E then
    ⟨Function.update display.cells display.cursor value, display.cursor + 1⟩
  else display

/-- What the terminal does with bytes in a row. -/
def receiveAll (display : Display) (values : List UInt8) : Display := values.foldl receive display

/-- A blank line with the cursor at its start. -/
def fresh : Display := ⟨fun _ => 0x20, 0⟩

/-- A text with the cursor behind it, on an otherwise blank line. -/
def showing (text : List UInt8) : Display where
  cells := fun column => if column < 0 then 0x20 else text.getD column.toNat 0x20
  cursor := text.length

theorem receiveAll_append (display : Display) (first second : List UInt8) :
    display.receiveAll (first ++ second) = (display.receiveAll first).receiveAll second :=
  List.foldl_append

theorem fresh_eq_showing : fresh = showing [] := by
  simp [fresh, showing]

theorem receive_of_printable {value : UInt8} (h : 0x20 ≤ value ∧ value ≤ 0x7E)
    (display : Display) :
    display.receive value =
      ⟨Function.update display.cells display.cursor value, display.cursor + 1⟩ := by
  have hne : value ≠ 0x08 := by
    rintro rfl
    exact absurd h.1 (by decide)
  rw [receive, if_neg hne, if_pos h]

/-- What is written over one cell of a text shows the other text, if that is the text with another
byte there. -/
theorem update_showing {text other : List UInt8} {column : Nat} {value : UInt8}
    (hat : other.getD column 0x20 = value)
    (hne : ∀ i, i ≠ column → other.getD i 0x20 = text.getD i 0x20) :
    Function.update (showing text).cells column value = (showing other).cells := by
  funext i
  by_cases hi : i = column
  · have hright : ¬(column : Int) < 0 := by omega
    rw [hi, Function.update_self]
    simp only [showing, if_neg hright, Int.toNat_natCast, hat]
  · rw [Function.update_of_ne hi]
    unfold showing
    by_cases hleft : i < 0
    · simp only [if_pos hleft]
    · simp only [if_neg hleft]
      exact (hne i.toNat (by omega)).symm

/-- A character appears behind the text. -/
theorem receive_showing {value : UInt8} (h : 0x20 ≤ value ∧ value ≤ 0x7E) (text : List UInt8) :
    (showing text).receive value = showing (text ++ [value]) := by
  have hcells : Function.update (showing text).cells text.length value =
      (showing (text ++ [value])).cells := by
    apply update_showing
    · simp
    · intro i hi
      simp only [List.getD_eq_getElem?_getD, List.getElem?_append, List.getElem?_singleton]
      grind
  rw [receive_of_printable h]
  apply Display.ext
  · exact hcells
  · simp [showing]

/-- Going back, writing a blank and going back takes the last character away. -/
theorem receiveAll_erase {text : List UInt8} (h : text ≠ []) :
    (showing text).receiveAll [0x08, 0x20, 0x08] = showing text.dropLast := by
  have hlength := List.length_pos_iff.2 h
  have hcells : Function.update (showing text).cells ((text.length - 1 : Nat) : Int) 0x20 =
      (showing text.dropLast).cells := by
    apply update_showing
    · simp
    · intro i hi
      simp only [List.getD_eq_getElem?_getD, List.getElem?_dropLast]
      grind
  have hcursor : ((text.length - 1 : Nat) : Int) = (text.length : Int) - 1 := by omega
  have herased : (showing text).receiveAll [0x08, 0x20, 0x08] =
      ⟨Function.update (showing text).cells ((text.length : Int) - 1) 0x20,
        (text.length : Int) - 1 + 1 - 1⟩ := rfl
  rw [hcursor] at hcells
  rw [herased, hcells]
  apply Display.ext
  · rfl
  · simp only [showing, List.length_dropLast]
    omega

end Display

/-! ## Keys -/

/-- What a key makes of a text: it is put behind it, takes its last character away, or does
nothing. -/
def editKey (text : List UInt8) (key : UInt8) : List UInt8 :=
  if 0x20 ≤ key ∧ key ≤ 0x7E then text ++ [key]
  else if key = 0x08 ∨ key = 0x7F then text.dropLast
  else text

/-- The text that keys spell. -/
def edited (keys : List UInt8) : List UInt8 := keys.foldl editKey []

/-- The last of some keys completes the line. -/
def EndsLine (limit : Nat) (keys : List UInt8) : Prop :=
  keys.getLast? = some 0x0D ∨ (edited keys).length = limit

/-- What a key does to a line that is not complete, and what is sent for it. -/
inductive Presses (limit : Nat) (text : List UInt8) (key : UInt8) : Keystroke → Prop
  /-- The line is complete as it is. -/
  | ends (isReturn : key = 0x0D) : Presses limit text key ⟨text, [], true⟩
  /-- The last character is taken away. -/
  | erases (isErase : key = 0x08 ∨ key = 0x7F) (any : text ≠ []) :
    Presses limit text key ⟨text.dropLast, [0x08, 0x20, 0x08], false⟩
  /-- A character is put behind the text, and may be the last that there is room for. -/
  | appends (isPrintable : 0x20 ≤ key ∧ key ≤ 0x7E) :
    Presses limit text key ⟨text ++ [key], [key], decide (limit ≤ text.length + 1)⟩
  /-- Nothing happens. -/
  | ignores (noReturn : key ≠ 0x0D) (same : editKey text key = text) :
    Presses limit text key ⟨text, [], false⟩

theorem editKey_of_printable {key : UInt8} (h : 0x20 ≤ key ∧ key ≤ 0x7E) (text : List UInt8) :
    editKey text key = text ++ [key] := if_pos h

theorem editKey_of_erase {key : UInt8} (h : key = 0x08 ∨ key = 0x7F) (text : List UInt8) :
    editKey text key = text.dropLast := by
  have hno : ¬(0x20 ≤ key ∧ key ≤ 0x7E) := by
    rcases h with rfl | rfl <;> decide
  rw [editKey, if_neg hno, if_pos h]

theorem presses (limit : Nat) (text : List UInt8) (key : UInt8) :
    Presses limit text key (press limit text key) := by
  unfold press
  by_cases hreturn : key = carriageReturn
  · rw [if_pos hreturn]
    exact .ends hreturn
  rw [if_neg hreturn]
  by_cases herase : key = backspace ∨ key = delete
  · rw [if_pos herase]
    by_cases hempty : text = []
    · subst hempty
      exact .ignores hreturn (editKey_of_erase herase [])
    · have hany : ¬text.isEmpty = true := by simpa using hempty
      rw [if_neg hany]
      exact .erases herase hempty
  rw [if_neg herase]
  by_cases hprintable : isPrintable key = true
  · rw [if_pos hprintable]
    exact .appends (by simpa [isPrintable] using hprintable)
  · have hno : ¬(0x20 ≤ key ∧ key ≤ 0x7E) := by simpa [isPrintable] using hprintable
    rw [if_neg hprintable]
    refine .ignores hreturn ?_
    rw [editKey, if_neg hno, if_neg (by exact herase)]

namespace Presses

variable {limit : Nat} {text : List UInt8} {key : UInt8} {stroke : Keystroke}

theorem text_eq (h : Presses limit text key stroke) : stroke.text = editKey text key := by
  cases h with
  | ends isReturn =>
    subst isReturn
    rfl
  | erases isErase _ => exact (editKey_of_erase isErase text).symm
  | appends isPrintable => exact (editKey_of_printable isPrintable text).symm
  | ignores _ same => exact same.symm

/-- A line is complete after a carriage return and as soon as it is full. -/
theorem isComplete_iff (h : Presses limit text key stroke) (hroom : text.length < limit) :
    stroke.isComplete = true ↔ key = 0x0D ∨ stroke.text.length = limit := by
  cases h with
  | ends isReturn => simp [isReturn]
  | erases isErase any =>
    have hno : key ≠ 0x0D := by rcases isErase with rfl | rfl <;> decide
    simp only [Bool.false_eq_true, hno, List.length_dropLast, false_or, false_iff]
    omega
  | appends isPrintable =>
    have hno : key ≠ 0x0D := by
      rintro rfl
      exact absurd isPrintable (by decide)
    simp only [decide_eq_true_eq, hno, List.length_append, List.length_singleton, false_or]
    omega
  | ignores noReturn same =>
    simp only [Bool.false_eq_true, noReturn, false_or, false_iff]
    omega

theorem length_le (h : Presses limit text key stroke) :
    stroke.text.length ≤ text.length + 1 := by
  cases h with
  | erases =>
    rw [List.length_dropLast]
    omega
  | appends => rw [List.length_append, List.length_singleton]
  | _ => exact Nat.le_succ _

/-- The terminal follows the text. -/
theorem shows (h : Presses limit text key stroke) :
    (Display.showing text).receiveAll stroke.echo = .showing stroke.text := by
  cases h with
  | ends => rfl
  | erases _ any => exact Display.receiveAll_erase any
  | appends isPrintable => exact Display.receive_showing isPrintable text
  | ignores => rfl

/-- No byte that is sent takes the cursor left of the text. -/
theorem inside (h : Presses limit text key stroke) (count : Nat) :
    0 ≤ ((Display.showing text).receiveAll (stroke.echo.take count)).cursor := by
  have hstart : 0 ≤ (text.length : Int) := Int.natCast_nonneg _
  cases h with
  | ends =>
    rw [List.take_nil]
    exact hstart
  | erases isErase any =>
    -- The cursor is at most one cell left of where it was, and there is a character there.
    have hlength := List.length_pos_iff.2 any
    rcases count with _ | _ | _ | count
    · exact hstart
    · show 0 ≤ (text.length : Int) - 1
      omega
    · show 0 ≤ (text.length : Int) - 1 + 1
      omega
    · rw [List.take_of_length_le (by simp)]
      show 0 ≤ (text.length : Int) - 1 + 1 - 1
      omega
  | appends isPrintable =>
    rcases count with _ | count
    · exact hstart
    · rw [List.take_of_length_le (by simp), (appends isPrintable : Presses limit text key _).shows]
      exact Int.natCast_nonneg _
  | ignores =>
    rw [List.take_nil]
    exact hstart

/-- Only printable characters come into a text. -/
theorem printable (h : Presses limit text key stroke)
    (htext : ∀ value ∈ text, 0x20 ≤ value ∧ value ≤ 0x7E) :
    ∀ value ∈ stroke.text, 0x20 ≤ value ∧ value ≤ 0x7E := by
  intro value hmem
  cases h with
  | ends => exact htext value hmem
  | erases => exact htext value (List.dropLast_subset text hmem)
  | appends isPrintable =>
    rcases List.mem_append.1 hmem with hold | hnew
    · exact htext value hold
    · obtain rfl := List.mem_singleton.1 hnew
      exact isPrintable
  | ignores => exact htext value hmem

end Presses

/-- A line while it is typed. -/
structure Draft where
  text : List UInt8 := []
  /-- All that was sent to the terminal for it. -/
  echo : List UInt8 := []

/-- Applies a key. -/
def Draft.press (limit : Nat) (draft : Draft) (key : UInt8) : Draft where
  text := (Dialog.press limit draft.text key).text
  echo := draft.echo ++ (Dialog.press limit draft.text key).echo

/-- The line after some keys. -/
def typed (limit : Nat) (keys : List UInt8) : Draft := keys.foldl (Draft.press limit) {}

/-- What is known of a line after some keys.  It is kept by every key that does not end the line,
and it is the invariant behind everything that is said about reading one. -/
structure Drafted (limit : Nat) (keys : List UInt8) (draft : Draft) : Prop where
  /-- The terminal shows the text, and the cursor is behind it. -/
  shows : Display.fresh.receiveAll draft.echo = .showing draft.text
  /-- The cursor has never been left of where the line began. -/
  inside : ∀ count, 0 ≤ (Display.fresh.receiveAll (draft.echo.take count)).cursor
  text : draft.text = edited keys
  printable : ∀ value ∈ draft.text, 0x20 ≤ value ∧ value ≤ 0x7E
  length_le : draft.text.length ≤ limit

namespace Drafted

variable {limit : Nat} {keys : List UInt8} {draft : Draft} {key : UInt8}

/-- A line that has not ended has room. -/
theorem length_lt (h : Drafted limit keys draft) (hgoing : ¬EndsLine limit keys) :
    draft.text.length < limit := by
  have hfull : draft.text.length ≠ limit := by
    rw [h.text]
    exact fun heq => hgoing (.inr heq)
  exact Nat.lt_of_le_of_ne h.length_le hfull

theorem press (h : Drafted limit keys draft) (hgoing : ¬EndsLine limit keys) (key : UInt8) :
    Drafted limit (keys ++ [key]) (draft.press limit key) := by
  have hpress := presses limit draft.text key
  have hroom := h.length_lt hgoing
  refine ⟨?_, ?_, ?_, hpress.printable h.printable, ?_⟩
  · rw [Draft.press, Display.receiveAll_append, h.shows]
    exact hpress.shows
  · intro count
    rw [Draft.press, List.take_append, Display.receiveAll_append]
    rcases Nat.le_total count draft.echo.length with hbefore | hbehind
    · rw [Nat.sub_eq_zero_of_le hbefore]
      exact h.inside count
    · rw [List.take_of_length_le hbehind, h.shows]
      exact hpress.inside _
  · rw [edited, List.foldl_append, ← edited, ← h.text]
    exact hpress.text_eq
  · exact Nat.le_trans hpress.length_le hroom

/-- The line is complete with the key that ends it. -/
theorem isComplete_iff (h : Drafted limit keys draft) (hgoing : ¬EndsLine limit keys)
    (key : UInt8) :
    (Dialog.press limit draft.text key).isComplete = true ↔ EndsLine limit (keys ++ [key]) := by
  have htext := (h.press hgoing key).text
  rw [(presses limit draft.text key).isComplete_iff (h.length_lt hgoing), EndsLine, ← htext]
  simp [Draft.press]

end Drafted

/-- Some keys do not end a line before the last of them. -/
def GoesOn (limit : Nat) (keys : List UInt8) : Prop :=
  ∀ count < keys.length, ¬EndsLine limit (keys.take count)

theorem goesOn_append_singleton_iff {limit : Nat} {keys : List UInt8} {key : UInt8} :
    GoesOn limit (keys ++ [key]) ↔ GoesOn limit keys ∧ ¬EndsLine limit keys := by
  unfold GoesOn
  rw [List.length_append, List.length_singleton]
  constructor
  · intro h
    refine ⟨fun count hcount => ?_, ?_⟩
    · have hbefore := h count (by omega)
      rwa [List.take_append_of_le_length (Nat.le_of_lt hcount)] at hbefore
    · have hall := h keys.length (by omega)
      rwa [List.take_left] at hall
  · rintro ⟨hbefore, hall⟩ count hcount
    rw [List.take_append_of_le_length (by omega)]
    rcases Nat.lt_or_eq_of_le (Nat.le_of_lt_succ hcount) with hlt | rfl
    · exact hbefore count hlt
    · rwa [List.take_length]

theorem typed_append_singleton (limit : Nat) (keys : List UInt8) (key : UInt8) :
    typed limit (keys ++ [key]) = (typed limit keys).press limit key := by
  rw [typed, List.foldl_append]
  rfl

/-- Every state of a line that goes on is as it should be. -/
theorem drafted {limit : Nat} {keys : List UInt8} (h : GoesOn limit keys) :
    Drafted limit keys (typed limit keys) := by
  induction keys using List.reverseRecOn with
  | nil =>
    refine ⟨Display.fresh_eq_showing, ?_, rfl, ?_, Nat.zero_le _⟩
    · simp [typed, Display.receiveAll, Display.fresh]
    · simp [typed]
  | append_singleton keys key ih =>
    obtain ⟨hbefore, hgoing⟩ := goesOn_append_singleton_iff.1 h
    rw [typed_append_singleton]
    exact (ih hbefore).press hgoing key

/-- What was sent for some keys stays sent. -/
theorem echo_typed_prefix (limit : Nat) (keys more : List UInt8) :
    (typed limit keys).echo <+: (typed limit (keys ++ more)).echo := by
  induction more using List.reverseRecOn with
  | nil => simp only [List.append_nil, List.prefix_rfl]
  | append_singleton more key ih =>
    rw [← List.append_assoc, typed_append_singleton]
    exact ih.trans (List.prefix_append _ _)

/-! ## Reading a line -/

/-- What the editor makes of an input. -/
@[ext]
structure Reading where
  /-- The line as it is at the end. -/
  text : List UInt8
  /-- All that was sent to the terminal. -/
  echo : List UInt8
  /-- The input behind the key that completed the line, if one did. -/
  rest? : Option (List UInt8)

/-- Reads keys into a line with room for `limit` characters, up to the one that completes it.  The
terminal is moved to its next line then.  Nothing but the limit is known of what the line is for. -/
def readLine (limit : Nat) (text : List UInt8) : List UInt8 → Reading
  | [] => { text, echo := [], rest? := none }
  | key :: rest =>
    match press limit text key with
    | ⟨text, echo, true⟩ => { text, echo := echo ++ [carriageReturn, lineFeed], rest? := some rest }
    | ⟨text, echo, false⟩ =>
      match readLine limit text rest with
      | ⟨text, more, rest?⟩ => ⟨text, echo ++ more, rest?⟩

variable {limit : Nat} {keys : List UInt8}

theorem readLine_cons_of_complete {text : List UInt8} {key : UInt8}
    (h : (press limit text key).isComplete = true) (rest : List UInt8) :
    readLine limit text (key :: rest) =
      ⟨(press limit text key).text, (press limit text key).echo ++ [carriageReturn, lineFeed],
        some rest⟩ := by
  rw [readLine]
  rcases hpress : press limit text key with ⟨after, echo, _ | _⟩
  · simp [hpress] at h
  · rfl

theorem readLine_cons_of_incomplete {text : List UInt8} {key : UInt8}
    (h : ¬(press limit text key).isComplete = true) (rest : List UInt8) :
    readLine limit text (key :: rest) =
      ⟨(readLine limit (press limit text key).text rest).text,
        (press limit text key).echo ++ (readLine limit (press limit text key).text rest).echo,
        (readLine limit (press limit text key).text rest).rest?⟩ := by
  rw [readLine]
  rcases hpress : press limit text key with ⟨after, echo, _ | _⟩
  · rfl
  · simp [hpress] at h

/-- A line that is not complete is read on from where it is. -/
theorem readLine_append {text after echo : List UInt8} {first : List UInt8}
    (h : readLine limit text first = ⟨after, echo, none⟩) (second : List UInt8) :
    readLine limit text (first ++ second) =
      ⟨(readLine limit after second).text, echo ++ (readLine limit after second).echo,
        (readLine limit after second).rest?⟩ := by
  induction first generalizing text echo with
  | nil =>
    obtain ⟨rfl, rfl, -⟩ := Reading.mk.inj h
    rfl
  | cons key first ih =>
    by_cases hcomplete : (press limit text key).isComplete = true
    · rw [readLine_cons_of_complete hcomplete] at h
      exact absurd (congrArg Reading.rest? h) (by simp)
    · rw [readLine_cons_of_incomplete hcomplete] at h
      obtain ⟨rfl, rfl, hnone⟩ := Reading.mk.inj h
      rw [List.cons_append, readLine_cons_of_incomplete hcomplete,
        ih (Reading.ext rfl rfl hnone), List.append_assoc]

/-- While the line goes on, the editor has read all keys. -/
theorem readLine_of_going (hgoes : GoesOn limit keys) (hgoing : ¬EndsLine limit keys) :
    readLine limit [] keys = ⟨(typed limit keys).text, (typed limit keys).echo, none⟩ := by
  induction keys using List.reverseRecOn with
  | nil => rfl
  | append_singleton keys key ih =>
    obtain ⟨hbefore, hbeforeGoing⟩ := goesOn_append_singleton_iff.1 hgoes
    have hcomplete := mt ((drafted hbefore).isComplete_iff hbeforeGoing key).1 hgoing
    rw [readLine_append (ih hbefore hbeforeGoing), readLine_cons_of_incomplete hcomplete,
      typed_append_singleton]
    simp only [readLine, Draft.press, List.append_nil]

/-- The key that ends the line is the last that the editor reads. -/
theorem readLine_of_ends {key : UInt8} (hgoes : GoesOn limit (keys ++ [key]))
    (hends : EndsLine limit (keys ++ [key])) (unread : List UInt8) :
    readLine limit [] (keys ++ [key] ++ unread) =
      ⟨(typed limit (keys ++ [key])).text,
        (typed limit (keys ++ [key])).echo ++ [carriageReturn, lineFeed], some unread⟩ := by
  obtain ⟨hbefore, hgoing⟩ := goesOn_append_singleton_iff.1 hgoes
  have hcomplete := ((drafted hbefore).isComplete_iff hgoing key).2 hends
  rw [List.append_assoc, List.singleton_append, readLine_append (readLine_of_going hbefore hgoing),
    readLine_cons_of_complete hcomplete, typed_append_singleton]
  simp only [Draft.press, List.append_assoc]

/-! ## Sessions -/

theorem value_feed (machine : Machine) (host : Host) (prompt : Prompt) (text : List UInt8)
    (key : UInt8) :
    (Session.feed ⟨machine, host, prompt, text⟩ key).value =
      if (press prompt.limit text key).isComplete then
        (complete (send machine ((press prompt.limit text key).echo ++ [carriageReturn, lineFeed]))
          host prompt (lineText (press prompt.limit text key).text)).value
      else
        .waiting ⟨send machine (press prompt.limit text key).echo, host, prompt,
          (press prompt.limit text key).text⟩ := by
  dsimp only [Session.feed]
  rcases press prompt.limit text key with ⟨after, echo, _ | _⟩ <;> rfl

theorem value_run_cons (session : Session) (key : UInt8) (rest : List UInt8) :
    (session.run (key :: rest)).value =
      match (session.feed key).value with
      | .waiting next => (next.run rest).value
      | .left machine host => (.left machine host, rest) := by
  rw [Session.run, Logged.value_bind]
  cases (session.feed key).value <;> rfl

/-- A session that is fed an input reads a line with the limit of its prompt.  If the line is
complete, then its text is the answer, and what is left of the input is for the next line. -/
theorem value_run_eq_readLine (machine : Machine) (host : Host) (prompt : Prompt)
    (text input : List UInt8) :
    (Session.run ⟨machine, host, prompt, text⟩ input).value =
      match readLine prompt.limit text input with
      | ⟨text, echo, none⟩ => (.waiting ⟨send machine echo, host, prompt, text⟩, [])
      | ⟨text, echo, some unread⟩ =>
        match (complete (send machine echo) host prompt (lineText text)).value with
        | .waiting next => (next.run unread).value
        | .left machine host => (.left machine host, unread) := by
  induction input generalizing machine text with
  | nil =>
    have hnothing := send_nil machine
    simp only [Session.run, readLine, hnothing, Logged.value_pure]
  | cons key rest ih =>
    rw [value_run_cons, value_feed]
    by_cases hcomplete : (press prompt.limit text key).isComplete = true
    · rw [if_pos hcomplete, readLine_cons_of_complete hcomplete]
    · rw [if_neg hcomplete, readLine_cons_of_incomplete hcomplete]
      dsimp only
      rw [ih]
      rcases readLine prompt.limit (press prompt.limit text key).text rest with
        ⟨after, echo, _ | unread⟩ <;> simp only [send_send]

/-! ## Lines -/

/-- What the editor does with an input: the keys it takes, and those it leaves unread.  The keys it
takes end with the first that completes the line, and if none does they are all there are.  The last
four fields tie this to the editor that runs: on any limit by itself, and in a session whose prompt
has the limit. -/
structure EditsLine (limit : Nat) (input consumed unread : List UInt8) : Prop where
  cut : input = consumed ++ unread
  /-- The keys end with the first that completes the line, if one does. -/
  ends : EndsLine limit consumed ∨ unread = []
  first : ∀ count < consumed.length, ¬EndsLine limit (consumed.take count)
  /-- After every key the terminal shows the text. -/
  drafts : ∀ count ≤ consumed.length,
    Drafted limit (consumed.take count) (typed limit (consumed.take count))
  /-- What was sent after some keys is the beginning of what is sent for the line. -/
  echoes : ∀ count, (typed limit (consumed.take count)).echo <+: (typed limit consumed).echo
  /-- The editor stops behind the key that completes the line and gives back the text of the keys up
  to it. -/
  returns : EndsLine limit consumed →
    readLine limit [] input =
      ⟨edited consumed, (typed limit consumed).echo ++ [0x0D, 0x0A], some unread⟩
  /-- If none completes it, then the editor has taken all keys and goes on from their text. -/
  goesOn : ¬EndsLine limit consumed →
    readLine limit [] input = ⟨edited consumed, (typed limit consumed).echo, none⟩
  /-- A session that the keys do not suffice waits with their text. -/
  waits : ¬EndsLine limit consumed → ∀ (machine : Machine) (host : Host) (prompt : Prompt),
    prompt.limit = limit →
    (Session.run ⟨machine, host, prompt, []⟩ input).value =
      (.waiting ⟨send machine (typed limit consumed).echo, host, prompt, edited consumed⟩, [])
  /-- A session that they suffice moves to the next line and takes their text for the answer. -/
  completes : EndsLine limit consumed → ∀ (machine : Machine) (host : Host) (prompt : Prompt),
    prompt.limit = limit →
    (Session.run ⟨machine, host, prompt, []⟩ input).value =
      match (complete (send machine ((typed limit consumed).echo ++ [0x0D, 0x0A])) host prompt
        (lineText (edited consumed))).value with
      | .waiting next => (next.run unread).value
      | .left machine host => (.left machine host, unread)

theorem GoesOn.take (h : GoesOn limit keys) {count : Nat}
    (hcount : count ≤ keys.length) : GoesOn limit (keys.take count) := by
  intro shorter hshorter
  rw [List.length_take_of_le hcount] at hshorter
  rw [List.take_take, Nat.min_eq_left (Nat.le_of_lt hshorter)]
  exact h shorter (by omega)

/-- Every input can be cut behind the first line, if it has one. -/
theorem exists_goesOn (limit : Nat) (input : List UInt8) :
    ∃ consumed unread, input = consumed ++ unread ∧ GoesOn limit consumed ∧
      (EndsLine limit consumed ∨ unread = []) := by
  classical
  by_cases hends : ∃ count, count ≤ input.length ∧ EndsLine limit (input.take count)
  · obtain ⟨hle, hlast⟩ := Nat.find_spec hends
    refine ⟨input.take (Nat.find hends), input.drop (Nat.find hends),
      (List.take_append_drop _ _).symm, ?_, .inl hlast⟩
    intro count hcount hearlier
    rw [List.length_take_of_le hle] at hcount
    rw [List.take_take, Nat.min_eq_left (Nat.le_of_lt hcount)] at hearlier
    exact Nat.find_min hends hcount ⟨Nat.le_trans (Nat.le_of_lt hcount) hle, hearlier⟩
  · refine ⟨input, [], (List.append_nil _).symm, ?_, .inr rfl⟩
    intro count hcount hearlier
    exact hends ⟨count, Nat.le_of_lt hcount, hearlier⟩

/-- Up to the key that completes the line, the editor makes of the keys what they spell. -/
theorem readLine_of_endsLine (hlimit : 1 ≤ limit) (hgoes : GoesOn limit keys)
    (hends : EndsLine limit keys) (unread : List UInt8) :
    readLine limit [] (keys ++ unread) =
      ⟨edited keys, (typed limit keys).echo ++ [carriageReturn, lineFeed], some unread⟩ := by
  rcases List.eq_nil_or_concat keys with rfl | ⟨before, key, hkeys⟩
  · -- A line that nothing was typed into has not ended.
    simp [EndsLine, edited] at hends
    omega
  · rw [List.concat_eq_append] at hkeys
    subst hkeys
    rw [readLine_of_ends hgoes hends, (drafted hgoes).text]

/-- For every input and every limit, what the terminal shows after each key is the text, the editor
stops behind the first key that completes the line, and the text is what the line is taken for. -/
theorem exists_editsLine {limit : Nat} (hlimit : 1 ≤ limit) (input : List UInt8) :
    ∃ consumed unread, EditsLine limit input consumed unread := by
  obtain ⟨consumed, unread, hcut, hgoes, hends⟩ := exists_goesOn limit input
  have hreturns (hlast : EndsLine limit consumed) : readLine limit [] input =
      ⟨edited consumed, (typed limit consumed).echo ++ [0x0D, 0x0A], some unread⟩ := by
    rw [hcut]
    exact readLine_of_endsLine hlimit hgoes hlast unread
  have hgoesOn (hgoing : ¬EndsLine limit consumed) : readLine limit [] input =
      ⟨edited consumed, (typed limit consumed).echo, none⟩ := by
    have hunread := hends.resolve_left hgoing
    rw [hcut, hunread, List.append_nil, readLine_of_going hgoes hgoing, (drafted hgoes).text]
  refine ⟨consumed, unread, hcut, hends, hgoes, fun count hcount => drafted (hgoes.take hcount),
    ?_, hreturns, hgoesOn, ?_, ?_⟩
  · intro count
    have hprefix := echo_typed_prefix limit (consumed.take count) (consumed.drop count)
    rwa [List.take_append_drop] at hprefix
  · rintro hgoing machine host prompt rfl
    rw [value_run_eq_readLine, hgoesOn hgoing]
  · rintro hlast machine host prompt rfl
    rw [value_run_eq_readLine, hreturns hlast]

/-- A character, an erasure on the line and one on the empty line, and more keys than there is room
for. -/
theorem exists_editsLine_two :
    1 ≤ 2 ∧ ∃ consumed unread,
      EditsLine 2 [0x41, 0x08, 0x7F, 0x42, 0x80, 0x43, 0x44, 0x0D] consumed unread :=
  ⟨by decide, exists_editsLine (by decide) _⟩

end Dialog

end Backplane
