import Mathlib.Data.List.Basic
import Mathlib.Data.String.Basic

/-! TOML 1.0, one character at a time, as far as comments, bare keys, basic strings and arrays of
these. A text is a document, or no TOML at all, or it uses more of the language. -/

namespace Foundations.Toml

inductive Value
  | string (text : String)
  | array (items : List String)
  deriving DecidableEq

/-- Where a basic string goes: to its key, or to the array begun at its key. -/
structure Slot where
  key : List Char
  items : Option (List String)

inductive State
  | line
  | comment
  | key (name : List Char)
  | equals (name : List Char)
  | value (name : List Char)
  | text (slot : Slot) (read : List Char)
  | escape (slot : Slot) (read : List Char)
  | code (slot : Slot) (read : List Char) (digits number : Nat)
  | closed (slot : Slot) (read : List Char)
  | array (name : List Char) (items : List String)
  | comma (name : List Char) (items : List String)
  | ended

inductive Reading
  | reading (entries : List (String × Value)) (state : State)
  | invalid
  | beyond

def isBlank (c : Char) : Bool := c == ' ' || c == '\t'
def isBareKey (c : Char) : Bool := c.isAlphanum || c == '_' || c == '-'

/-- `basic-unescaped` -/
def isBasicUnescaped (c : Char) : Bool :=
  c == '\t' || (0x20 ≤ c.toNat && c != '"' && c != '\\' && c.toNat != 0x7F)

/-- `non-eol` -/
def isNonEol (c : Char) : Bool := c == '\t' || (0x20 ≤ c.toNat && c.toNat != 0x7F)

def escaped : Char → Option Char
  | 'b' => some '\x08'
  | 't' => some '\t'
  | 'n' => some '\n'
  | 'f' => some '\x0c'
  | 'r' => some '\r'
  | '"' => some '"'
  | '\\' => some '\\'
  | _ => none

def hexDigit (c : Char) : Option Nat :=
  if '0' ≤ c ∧ c ≤ '9' then some (c.toNat - '0'.toNat)
  else if 'a' ≤ c ∧ c ≤ 'f' then some (c.toNat - 'a'.toNat + 10)
  else if 'A' ≤ c ∧ c ≤ 'F' then some (c.toNat - 'A'.toNat + 10)
  else none

section

variable (entries : List (String × Value))

def stepEnded (c : Char) : Reading :=
  if isBlank c then .reading entries .ended
  else if c = '\n' then .reading entries .line
  else if c = '#' then .reading entries .comment
  else .beyond

def stepComma (name : List Char) (items : List String) (c : Char) : Reading :=
  if isBlank c || c = '\n' then .reading entries (.comma name items)
  else if c = ',' then .reading entries (.array name items)
  else if c = ']' then .reading (entries ++ [(.ofList name, .array items)]) .ended
  else .beyond

/-- After the closing quotation mark. A third one in a row begins a multi-line string. -/
def stepClosed (slot : Slot) (read : List Char) (c : Char) : Reading :=
  match slot.items with
  | none => stepEnded (entries ++ [(.ofList slot.key, .string (.ofList read))]) c
  | some items => stepComma entries slot.key (items ++ [.ofList read]) c

def stepText (slot : Slot) (read : List Char) (c : Char) : Reading :=
  if c = '"' then .reading entries (.closed slot read)
  else if c = '\\' then .reading entries (.escape slot read)
  else if isBasicUnescaped c then .reading entries (.text slot (read ++ [c]))
  else .invalid

def stepEscape (slot : Slot) (read : List Char) (c : Char) : Reading :=
  match escaped c with
  | some value => .reading entries (.text slot (read ++ [value]))
  | none =>
    if c = 'u' then .reading entries (.code slot read 4 0)
    else if c = 'U' then .reading entries (.code slot read 8 0)
    else .invalid

/-- `digits` of the code are still to come. -/
def stepCode (slot : Slot) (read : List Char) (digits number : Nat) (c : Char) : Reading :=
  match hexDigit c with
  | none => .invalid
  | some digit =>
    let number := number * 16 + digit
    if 1 < digits then .reading entries (.code slot read (digits - 1) number)
    else if number.isValidChar then .reading entries (.text slot (read ++ [Char.ofNat number]))
    else .invalid

end

def step : Reading → Char → Reading
  | .invalid, _ => .invalid
  | .beyond, _ => .beyond
  | .reading entries state, c =>
    match state with
    | .line =>
      if isBlank c || c = '\n' then .reading entries .line
      else if c = '#' then .reading entries .comment
      else if isBareKey c then .reading entries (.key [c])
      else .beyond
    | .comment =>
      if c = '\n' then .reading entries .line
      else if isNonEol c then .reading entries .comment
      else .beyond
    | .key name =>
      if isBareKey c then .reading entries (.key (name ++ [c]))
      else if isBlank c then .reading entries (.equals name)
      else if c = '=' then .reading entries (.value name)
      else .beyond
    | .equals name =>
      if isBlank c then .reading entries (.equals name)
      else if c = '=' then .reading entries (.value name)
      else .beyond
    | .value name =>
      if isBlank c then .reading entries (.value name)
      else if c = '"' then .reading entries (.text ⟨name, none⟩ [])
      else if c = '[' then .reading entries (.array name [])
      else .beyond
    | .text slot read => stepText entries slot read c
    | .escape slot read => stepEscape entries slot read c
    | .code slot read digits number => stepCode entries slot read digits number c
    | .closed slot read => stepClosed entries slot read c
    | .array name items =>
      if isBlank c || c = '\n' then .reading entries (.array name items)
      else if c = '"' then .reading entries (.text ⟨name, some items⟩ [])
      else if c = ']' then .reading (entries ++ [(.ofList name, .array items)]) .ended
      else .beyond
    | .comma name items => stepComma entries name items c
    | .ended => stepEnded entries c

def run (reading : Reading) (text : String) : Reading := text.toList.foldl step reading

inductive Outcome
  | document (entries : List (String × Value))
  | invalid
  | beyond

/-- A basic string that does not end is no TOML. -/
def finish : Reading → Outcome
  | .invalid => .invalid
  | .beyond => .beyond
  | .reading entries state =>
    match state with
    | .line | .comment | .ended => if (entries.map Prod.fst).Nodup then .document entries else .beyond
    | .text _ _ | .escape _ _ | .code _ _ _ _ => .invalid
    | _ => .beyond

def read (text : String) : Outcome := finish (run (.reading [] .line) text)

@[simp] theorem run_append (reading : Reading) (first second : String) :
    run reading (first ++ second) = run (run reading first) second := by
  unfold run
  rw [String.toList_append, List.foldl_append]

theorem foldl_invalid (chars : List Char) : chars.foldl step .invalid = .invalid := by
  induction chars with
  | nil => rfl
  | cons c rest ih => exact ih

@[simp] theorem run_invalid (text : String) : run .invalid text = .invalid := foldl_invalid text.toList

/-! Basic strings. -/

/-- Inside a basic string these characters stand for `c`. -/
inductive Encodes (c : Char) : List Char → Prop
  | unescaped : isBasicUnescaped c = true → Encodes c [c]
  | escaped {e : Char} : escaped e = some c → Encodes c ['\\', e]

/-- Inside a basic string these characters are an escape that TOML does not have. -/
inductive Rejected : List Char → Prop
  | escape {e : Char} {rest : List Char} : escaped e = none → e ≠ 'u' → e ≠ 'U' → Rejected ('\\' :: e :: rest)
  | code {c : Char} {rest : List Char} : hexDigit c = none → Rejected ('\\' :: 'u' :: c :: rest)

variable {entries : List (String × Value)} {slot : Slot} {before : List Char}

theorem Encodes.run {c : Char} {chars : List Char} (encodes : Encodes c chars) :
    chars.foldl step (.reading entries (.text slot before)) = .reading entries (.text slot (before ++ [c])) := by
  cases encodes with
  | unescaped plain =>
    have quote : c ≠ '"' := by
      rintro rfl
      cases plain
    have backslash : c ≠ '\\' := by
      rintro rfl
      cases plain
    simp [step, stepText, quote, backslash, plain]
  | escaped known => simp [step, stepText, stepEscape, known]

theorem Rejected.run {chars : List Char} (rejected : Rejected chars) :
    chars.foldl step (.reading entries (.text slot before)) = .invalid := by
  cases rejected with
  | escape unknown noCode noLongCode =>
    simp only [List.foldl_cons]
    rw [show step (step (.reading entries (.text slot before)) '\\') _ = .invalid by
      simp [step, stepText, stepEscape, unknown, noCode, noLongCode]]
    exact foldl_invalid _
  | code noDigit =>
    have none : escaped 'u' = none := rfl
    simp only [List.foldl_cons]
    rw [show step (step (step (.reading entries (.text slot before)) '\\') 'u') _ = .invalid by
      simp [step, stepText, stepEscape, stepCode, none, noDigit]]
    exact foldl_invalid _

/-- An encoder of characters that TOML reads back where `fits` holds, and rejects elsewhere. -/
structure Encoder (encode : Char → List Char) (fits : Char → Prop) : Prop where
  encodes : ∀ c, fits c → Encodes c (encode c)
  rejected : ∀ c, ¬ fits c → Rejected (encode c)

def quote (encode : Char → List Char) (text : String) : String :=
  .ofList ('"' :: text.toList.flatMap encode ++ ['"'])

def Fits (fits : Char → Prop) (text : String) : Prop := ∀ c ∈ text.toList, fits c

variable {encode : Char → List Char} {fits : Char → Prop}

theorem run_body (encoder : Encoder encode fits) {chars : List Char} (fit : ∀ c ∈ chars, fits c) :
    (chars.flatMap encode).foldl step (.reading entries (.text slot before)) =
      .reading entries (.text slot (before ++ chars)) := by
  induction chars generalizing before with
  | nil => simp
  | cons c rest ih =>
    rw [List.flatMap_cons, List.foldl_append, (encoder.encodes c (fit c List.mem_cons_self)).run,
      ih fun d member => fit d (List.mem_cons_of_mem c member), List.append_assoc, List.singleton_append]

theorem run_body_unfit (encoder : Encoder encode fits) {chars : List Char} (unfit : ¬ ∀ c ∈ chars, fits c) :
    (chars.flatMap encode).foldl step (.reading entries (.text slot before)) = .invalid := by
  induction chars generalizing before with
  | nil => simp at unfit
  | cons c rest ih =>
    rw [List.flatMap_cons, List.foldl_append]
    by_cases first : fits c
    · rw [(encoder.encodes c first).run]
      apply ih
      intro others
      exact unfit (List.forall_mem_cons.mpr ⟨first, others⟩)
    · rw [(encoder.rejected c first).run, foldl_invalid]

/-- The state in which the string of a slot may begin. -/
def Slot.start (slot : Slot) : State :=
  match slot.items with
  | none => .value slot.key
  | some items => .array slot.key items

theorem step_start (slot : Slot) : step (.reading entries slot.start) '"' = .reading entries (.text slot []) := by
  obtain ⟨key, _ | items⟩ := slot <;> rfl

theorem run_quote (encoder : Encoder encode fits) {state : State} (begins : slot.start = state) {text : String}
    (fit : Fits fits text) :
    run (.reading entries state) (quote encode text) = .reading entries (.closed slot text.toList) := by
  unfold run quote
  rw [String.toList_ofList, List.cons_append, List.foldl_cons, ← begins, step_start, List.foldl_append,
    run_body encoder fit]
  rfl

theorem run_quote_unfit (encoder : Encoder encode fits) {state : State} (begins : slot.start = state)
    {text : String} (unfit : ¬ Fits fits text) :
    run (.reading entries state) (quote encode text) = .invalid := by
  unfold run quote
  rw [String.toList_ofList, List.cons_append, List.foldl_cons, ← begins, step_start, List.foldl_append,
    run_body_unfit encoder unfit, foldl_invalid]

/-! Whole lines. -/

/-- Read from the start of a line, the text adds these entries where `fits` holds, and is no TOML
    elsewhere. -/
structure Writes (text : String) (fits : Prop) (added : List (String × Value)) : Prop where
  fit : ∀ entries, fits → run (.reading entries .line) text = .reading (entries ++ added) .line
  unfit : ∀ entries, ¬ fits → run (.reading entries .line) text = .invalid

theorem Writes.append {first second : String} {p q : Prop} {added more : List (String × Value)}
    (one : Writes first p added) (two : Writes second q more) :
    Writes (first ++ second) (p ∧ q) (added ++ more) := by
  constructor
  · intro entries ⟨fit, fit'⟩
    rw [run_append, one.fit entries fit, two.fit _ fit', List.append_assoc]
  · intro entries unfit
    rw [run_append]
    by_cases fit : p
    · rw [one.fit entries fit]
      exact two.unfit _ fun fit' => unfit ⟨fit, fit'⟩
    · rw [one.unfit entries fit, run_invalid]

theorem Writes.congr {text : String} {p q : Prop} {added more : List (String × Value)}
    (writes : Writes text p added) (same : p ↔ q) (equal : added = more) : Writes text q more := by
  rw [← equal, ← propext same]
  exact writes

/-- Comments and blank lines. -/
theorem Writes.nothing {text : String}
    (skipped : ∀ entries, run (.reading entries .line) text = .reading entries .line) :
    Writes text True [] := by
  constructor
  · intro entries _
    rw [skipped, List.append_nil]
  · intro entries unfit
    exact absurd trivial unfit

def isComment (text : String) : Bool :=
  match text.toList with
  | '#' :: rest => rest.getLast? == some '\n' && rest.dropLast.all isNonEol
  | _ => false

theorem Writes.comment {text : String} (is : isComment text = true) : Writes text True [] := by
  apply Writes.nothing
  intro entries
  have more : ∀ chars : List Char, (∀ c ∈ chars, isNonEol c = true) →
      chars.foldl step (.reading entries .comment) = .reading entries .comment := by
    intro chars
    induction chars with
    | nil => simp
    | cons c rest ih =>
      intro shown
      have first := shown c List.mem_cons_self
      have noEnd : c ≠ '\n' := by
        rintro rfl
        cases first
      have same : step (.reading entries .comment) c = .reading entries .comment := by simp [step, first, noEnd]
      rw [List.foldl_cons, same]
      exact ih fun d member => shown d (List.mem_cons_of_mem c member)
  unfold isComment at is
  split at is
  · rename_i rest chars
    obtain ⟨ends, shown⟩ := Bool.and_eq_true_iff.mp is
    obtain ⟨body, rfl⟩ := List.getLast?_eq_some_iff.mp (eq_of_beq ends)
    rw [List.dropLast_concat, List.all_eq_true] at shown
    unfold run
    rw [chars, List.foldl_cons, List.foldl_append]
    show (['\n'] : List Char).foldl step (body.foldl step (.reading entries .comment)) = _
    rw [more body shown]
    rfl
  · cases is

def BareKey (key : String) : Prop := key.toList ≠ [] ∧ key.toList.all isBareKey = true

instance (key : String) : Decidable (BareKey key) := inferInstanceAs (Decidable (_ ∧ _))

theorem run_key {key : String} (bare : BareKey key) :
    run (.reading entries .line) (key ++ " =") = .reading entries (.value key.toList) := by
  have more : ∀ (chars name : List Char), (∀ c ∈ chars, isBareKey c = true) →
      chars.foldl step (.reading entries (.key name)) = .reading entries (.key (name ++ chars)) := by
    intro chars
    induction chars with
    | nil => simp
    | cons c rest ih =>
      intro name bare
      have first : step (.reading entries (.key name)) c = .reading entries (.key (name ++ [c])) := by
        simp [step, bare c List.mem_cons_self]
      rw [List.foldl_cons, first, ih _ fun d member => bare d (List.mem_cons_of_mem c member),
        List.append_assoc, List.singleton_append]
  obtain ⟨nonempty, bare⟩ := bare
  rw [List.all_eq_true] at bare
  rw [run_append]
  unfold run
  cases chars : key.toList with
  | nil => exact absurd chars nonempty
  | cons c rest =>
    rw [chars] at bare
    have begins := bare c List.mem_cons_self
    have noBlank : isBlank c = false := by
      rw [← Bool.not_eq_true]
      intro blank
      rcases Bool.or_eq_true_iff.mp blank with space | tab
      · rw [eq_of_beq space] at begins
        cases begins
      · rw [eq_of_beq tab] at begins
        cases begins
    have noEnd : c ≠ '\n' := by
      rintro rfl
      cases begins
    have noComment : c ≠ '#' := by
      rintro rfl
      cases begins
    have first : step (.reading entries .line) c = .reading entries (.key [c]) := by
      simp [step, begins, noBlank, noEnd, noComment]
    rw [List.foldl_cons, first, more rest [c] fun d member => bare d (List.mem_cons_of_mem c member)]
    rfl

theorem run_space (key : List Char) :
    run (.reading entries (.value key)) " " = .reading entries (.value key) := rfl

theorem Writes.pair (encoder : Encoder encode fits) {key : String} (bare : BareKey key) (text : String) :
    Writes (key ++ " =" ++ " " ++ quote encode text ++ "\n") (Fits fits text) [(key, .string text)] := by
  constructor
  · intro entries fit
    have begins : Slot.start ⟨key.toList, none⟩ = .value key.toList := rfl
    rw [run_append, run_append, run_append, run_key bare, run_space, run_quote encoder begins fit]
    show Reading.reading (entries ++ [(String.ofList key.toList, Value.string (String.ofList text.toList))]) _ = _
    rw [String.ofList_toList, String.ofList_toList]
  · intro entries unfit
    have begins : Slot.start ⟨key.toList, none⟩ = .value key.toList := rfl
    rw [run_append, run_append, run_append, run_key bare, run_space,
      run_quote_unfit encoder begins unfit, run_invalid]

def itemLine (encode : Char → List Char) (text : String) : String := "  " ++ quote encode text ++ ",\n"

theorem run_item (encoder : Encoder encode fits) {key : List Char} {items : List String} {text : String}
    (fit : Fits fits text) :
    run (.reading entries (.array key items)) (itemLine encode text) =
      .reading entries (.array key (items ++ [text])) := by
  have indent : run (.reading entries (.array key items)) "  " = .reading entries (.array key items) := rfl
  have begins : Slot.start ⟨key, some items⟩ = .array key items := rfl
  unfold itemLine
  rw [run_append, run_append, indent, run_quote encoder begins fit]
  show Reading.reading entries (.array key (items ++ [String.ofList text.toList])) = _
  rw [String.ofList_toList]

theorem run_item_unfit (encoder : Encoder encode fits) {key : List Char} {items : List String} {text : String}
    (unfit : ¬ Fits fits text) :
    run (.reading entries (.array key items)) (itemLine encode text) = .invalid := by
  have indent : run (.reading entries (.array key items)) "  " = .reading entries (.array key items) := rfl
  have begins : Slot.start ⟨key, some items⟩ = .array key items := rfl
  unfold itemLine
  rw [run_append, run_append, indent, run_quote_unfit encoder begins unfit, run_invalid]

def itemLines (encode : Char → List Char) (items : List String) : String :=
  (items.map (itemLine encode)).foldr (· ++ ·) ""

theorem run_items (encoder : Encoder encode fits) {key : List Char} {before items : List String}
    (fit : ∀ text ∈ items, Fits fits text) :
    run (.reading entries (.array key before)) (itemLines encode items) =
      .reading entries (.array key (before ++ items)) := by
  induction items generalizing before with
  | nil => simp [itemLines, run]
  | cons text rest ih =>
    show run _ (itemLine encode text ++ itemLines encode rest) = _
    rw [run_append, run_item encoder (fit text List.mem_cons_self),
      ih fun other member => fit other (List.mem_cons_of_mem text member), List.append_assoc,
      List.singleton_append]

theorem run_items_unfit (encoder : Encoder encode fits) {key : List Char} {before items : List String}
    (unfit : ¬ ∀ text ∈ items, Fits fits text) :
    run (.reading entries (.array key before)) (itemLines encode items) = .invalid := by
  induction items generalizing before with
  | nil => simp at unfit
  | cons text rest ih =>
    show run _ (itemLine encode text ++ itemLines encode rest) = _
    rw [run_append]
    by_cases first : Fits fits text
    · rw [run_item encoder first]
      apply ih
      intro others
      exact unfit (List.forall_mem_cons.mpr ⟨first, others⟩)
    · rw [run_item_unfit encoder first, run_invalid]

theorem Writes.strings (encoder : Encoder encode fits) {key : String} (bare : BareKey key) (items : List String) :
    Writes (key ++ " =" ++ " [\n" ++ itemLines encode items ++ "]\n") (∀ text ∈ items, Fits fits text)
      [(key, .array items)] := by
  have opens (entries : List (String × Value)) (name : List Char) :
      run (.reading entries (.value name)) " [\n" = .reading entries (.array name []) := rfl
  constructor
  · intro entries fit
    rw [run_append, run_append, run_append, run_key bare, opens, run_items encoder fit]
    show Reading.reading (entries ++ [(String.ofList key.toList, Value.array items)]) _ = _
    rw [String.ofList_toList]
  · intro entries unfit
    rw [run_append, run_append, run_append, run_key bare, opens, run_items_unfit encoder unfit, run_invalid]

/-- What a reader makes of such a text. -/
theorem Writes.read {text : String} {p : Prop} {added : List (String × Value)} (writes : Writes text p added)
    (keys : (added.map Prod.fst).Nodup) :
    (p → read text = .document added) ∧ (¬ p → read text = .invalid) := by
  constructor
  · intro fit
    unfold Toml.read
    rw [writes.fit [] fit, List.nil_append]
    exact if_pos keys
  · intro unfit
    unfold Toml.read
    rw [writes.unfit [] unfit]
    rfl

end Foundations.Toml
