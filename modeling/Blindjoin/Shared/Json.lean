import Blindjoin.Bitcoin.Rpc
import Blindjoin.Lib.JsonText

/-!
# Compact JSON

A JSON value as a compact writer prints it, `Blindjoin.Value.print`, and a reader
of that form, `Blindjoin.Value.parse`. The values printed here have natural
numbers only, in decimal (`Blindjoin.Value.Plain`); each of them is read back
(`Blindjoin.Value.parse_print`).

The reader takes a value off the front of a text and returns what follows it. A
string, an array and an object end where their closing character stands, but a
number ends where the next character is no part of one, so what follows a value
must not go on with one (`Blindjoin.NoNumberHead`).
-/

namespace Blindjoin

open JsonText

namespace Value

/-- The character an object opens with. -/
def openBrace : Char := Char.ofNat 123

/-- The character an object closes with. -/
def closeBrace : Char := Char.ofNat 125

/-! ### Printing -/

mutual

/-- The text of a value. -/
def printChars : Value → List Char
  | .null => "null".toList
  | .bool true => "true".toList
  | .bool false => "false".toList
  | .number text => text.toList
  | .string s => quoted s.toList
  | .array [] => ['[', ']']
  | .array (v :: vs) => '[' :: (printChars v ++ printItems vs)
  | .object [] => [openBrace, closeBrace]
  | .object ((key, v) :: fs) =>
    openBrace :: (quoted key.toList ++ ':' :: (printChars v ++ printFields fs))

/-- The items after the first, up to the end of the array. -/
def printItems : List Value → List Char
  | [] => [']']
  | v :: vs => ',' :: (printChars v ++ printItems vs)

/-- The fields after the first, up to the end of the object. -/
def printFields : List (String × Value) → List Char
  | [] => [closeBrace]
  | (key, v) :: fs => ',' :: (quoted key.toList ++ ':' :: (printChars v ++ printFields fs))

end

/-- The text of a value. -/
def print (v : Value) : String := String.ofList v.printChars

/-! ### Reading -/

/-- A character a number is written with. -/
def isNumberChar (c : Char) : Bool :=
  c.isDigit || c == '-' || c == '+' || c == '.' || c == 'e' || c == 'E'

/-- Read a number at the front, as its text. -/
def readNumber (cs : List Char) : Option (Value × List Char) :=
  if cs.takeWhile isNumberChar = [] then none
  else some (.number (String.ofList (cs.takeWhile isNumberChar)), cs.dropWhile isNumberChar)

mutual

/-- Read a value at the front. Every call is on a shorter text or has a shorter
text before it, so the length of the text is fuel enough. -/
def readValue : ℕ → List Char → Option (Value × List Char)
  | 0, _ => none
  | _ + 1, [] => none
  | n + 1, c :: cs =>
    if c = '"' then
      match readQuoted (c :: cs) with
      | some (s, rest) => some (.string (String.ofList s), rest)
      | none => none
    else if c = '[' then
      if cs.head? = some ']' then some (.array [], cs.tail)
      else match readValue n cs with
        | some (v, rest) => match readItems n rest with
          | some (vs, rest) => some (.array (v :: vs), rest)
          | none => none
        | none => none
    else if c = openBrace then
      if cs.head? = some closeBrace then some (.object [], cs.tail)
      else match readField n cs with
        | some (f, rest) => match readFields n rest with
          | some (fs, rest) => some (.object (f :: fs), rest)
          | none => none
        | none => none
    else if c = 'n' then
      (JsonText.expect "null".toList (c :: cs)).map fun rest => (.null, rest)
    else if c = 't' then
      (JsonText.expect "true".toList (c :: cs)).map fun rest => (.bool true, rest)
    else if c = 'f' then
      (JsonText.expect "false".toList (c :: cs)).map fun rest => (.bool false, rest)
    else readNumber (c :: cs)

/-- Read the items after the first. -/
def readItems : ℕ → List Char → Option (List Value × List Char)
  | 0, _ => none
  | _ + 1, [] => none
  | n + 1, c :: cs =>
    if c = ']' then some ([], cs)
    else if c = ',' then
      match readValue n cs with
      | some (v, rest) => match readItems n rest with
        | some (vs, rest) => some (v :: vs, rest)
        | none => none
      | none => none
    else none

/-- Read a key and its value. -/
def readField : ℕ → List Char → Option ((String × Value) × List Char)
  | 0, _ => none
  | n + 1, cs => match readQuoted cs with
    | some (key, ':' :: rest) => match readValue n rest with
      | some (v, rest) => some ((String.ofList key, v), rest)
      | none => none
    | _ => none

/-- Read the fields after the first. -/
def readFields : ℕ → List Char → Option (List (String × Value) × List Char)
  | 0, _ => none
  | _ + 1, [] => none
  | n + 1, c :: cs =>
    if c = closeBrace then some ([], cs)
    else if c = ',' then
      match readField n cs with
      | some (f, rest) => match readFields n rest with
        | some (fs, rest) => some (f :: fs, rest)
        | none => none
      | none => none
    else none

end

/-- Read a text that is one value. -/
def parse (s : String) : Option Value :=
  match readValue (s.toList.length + 1) s.toList with
  | some (v, []) => some v
  | _ => none

/-! ### What is printed is read back -/

/-- The numbers in a value are natural numbers, in decimal. -/
inductive Plain : Value → Prop
  | null : Plain .null
  | bool (b : Bool) : Plain (.bool b)
  | number (n : ℕ) : Plain (.number (String.ofList (Nat.toDigits 10 n)))
  | string (s : String) : Plain (.string s)
  | array {items : List Value} (h : ∀ v ∈ items, Plain v) : Plain (.array items)
  | object {fields : List (String × Value)} (h : ∀ f ∈ fields, Plain f.2) :
    Plain (.object fields)

/-- A text that does not go on with a number. -/
def NoNumberHead (rest : List Char) : Prop := ∀ c ∈ rest.head?, isNumberChar c = false

theorem noNumberHead_nil : NoNumberHead [] := by
  rintro c ⟨⟩

theorem noNumberHead_cons {c : Char} (hc : isNumberChar c = false) (rest : List Char) :
    NoNumberHead (c :: rest) := by
  rintro d ⟨⟩
  exact hc

/-- A value is read back from the front of every text that does not go on with a
number. -/
def ReadsBack (v : Value) : Prop :=
  ∀ (n : ℕ) (rest : List Char), NoNumberHead rest → v.printChars.length ≤ n →
    readValue n (v.printChars ++ rest) = some (v, rest)

theorem readNumber_toDigits (n : ℕ) {rest : List Char} (hrest : NoNumberHead rest) :
    readNumber (Nat.toDigits 10 n ++ rest) =
      some (.number (String.ofList (Nat.toDigits 10 n)), rest) := by
  have hall : ∀ d ∈ Nat.toDigits 10 n, isNumberChar d = true := by
    intro d hd
    have hdigit : d.isDigit = true := Nat.isDigit_of_mem_toDigits (by decide) (by decide) hd
    simp only [isNumberChar, hdigit, Bool.true_or]
  have hhead : rest.takeWhile isNumberChar = [] ∧ rest.dropWhile isNumberChar = rest := by
    cases rest with
    | nil => exact ⟨rfl, rfl⟩
    | cons c cs =>
      have hc : isNumberChar c = false := hrest c rfl
      rw [List.takeWhile_cons, List.dropWhile_cons, hc]
      exact ⟨rfl, rfl⟩
  rw [readNumber, List.takeWhile_append_of_pos hall, List.dropWhile_append_of_pos hall, hhead.1,
    hhead.2, List.append_nil, if_neg Nat.toDigits_ne_nil]

/-- No value begins with the end of an array. -/
theorem head?_ne_of_readValue {n : ℕ} {cs : List Char} {p : Value × List Char}
    (h : readValue n cs = some p) : cs.head? ≠ some ']' := by
  intro hhead
  cases cs with
  | nil => exact absurd hhead (by simp)
  | cons c cs =>
    obtain rfl : c = ']' := by simpa using hhead
    cases n with
    | zero => exact absurd h (by simp [readValue])
    | succ n =>
      have hnumber : readNumber (']' :: cs) = none := by
        rw [readNumber, List.takeWhile_cons, show isNumberChar ']' = false by decide]
        rfl
      have hnone : readValue (n + 1) (']' :: cs) = none := by
        rw [readValue, if_neg (by decide), if_neg (by decide), if_neg (by decide),
          if_neg (by decide), if_neg (by decide), if_neg (by decide), hnumber]
      rw [hnone] at h
      exact absurd h (by simp)

theorem readsBack_number (n : ℕ) : ReadsBack (.number (String.ofList (Nat.toDigits 10 n))) := by
  intro fuel rest hrest hfuel
  have hread := readNumber_toDigits n hrest
  have hdigit : ∀ d ∈ Nat.toDigits 10 n, d.isDigit = true := fun d hd =>
    Nat.isDigit_of_mem_toDigits (by decide) (by decide) hd
  rw [printChars, String.toList_ofList] at hfuel ⊢
  cases hds : Nat.toDigits 10 n with
  | nil => exact absurd hds Nat.toDigits_ne_nil
  | cons d ds =>
    rw [hds] at hread hfuel hdigit
    rw [List.length_cons] at hfuel
    obtain ⟨m, rfl⟩ : ∃ m, fuel = m + 1 := ⟨fuel - 1, by omega⟩
    -- a digit is none of the characters another value begins with
    have hne : ∀ c : Char, c.isDigit = false → d ≠ c := by
      rintro c hc rfl
      rw [hdigit d List.mem_cons_self] at hc
      exact absurd hc (by decide)
    rw [List.cons_append] at hread ⊢
    rw [readValue, if_neg (hne _ (by decide)), if_neg (hne _ (by decide)),
      if_neg (hne _ (by decide)), if_neg (hne _ (by decide)), if_neg (hne _ (by decide)),
      if_neg (hne _ (by decide)), hread]

theorem readsBack_string (s : String) : ReadsBack (.string s) := by
  intro fuel rest hrest hfuel
  have hread := readQuoted_quoted s.toList rest
  rw [printChars] at hfuel ⊢
  rw [quoted, List.cons_append] at hread ⊢
  rw [quoted, List.length_cons] at hfuel
  obtain ⟨m, rfl⟩ : ∃ m, fuel = m + 1 := ⟨fuel - 1, by omega⟩
  rw [readValue, if_pos rfl, hread]
  simp only [String.ofList_toList]

/-- What follows a value in an array does not go on with a number. -/
theorem noNumberHead_printItems (vs : List Value) (rest : List Char) :
    NoNumberHead (printItems vs ++ rest) := by
  cases vs with
  | nil => exact noNumberHead_cons (by decide) rest
  | cons v vs => exact noNumberHead_cons (by decide) _

theorem noNumberHead_printFields (fs : List (String × Value)) (rest : List Char) :
    NoNumberHead (printFields fs ++ rest) := by
  cases fs with
  | nil => exact noNumberHead_cons (by decide) rest
  | cons f fs => exact noNumberHead_cons (by decide) _

theorem readItems_printItems {vs : List Value} (h : ∀ v ∈ vs, ReadsBack v) {n : ℕ}
    (rest : List Char) (hn : (printItems vs).length ≤ n) :
    readItems n (printItems vs ++ rest) = some (vs, rest) := by
  induction vs generalizing n with
  | nil =>
    obtain ⟨m, rfl⟩ : ∃ m, n = m + 1 := ⟨n - 1, by simp [printItems] at hn; omega⟩
    rw [printItems, List.singleton_append, readItems, if_pos rfl]
  | cons v vs ih =>
    rw [printItems, List.length_cons, List.length_append] at hn
    obtain ⟨m, rfl⟩ : ∃ m, n = m + 1 := ⟨n - 1, by omega⟩
    have hv := h v List.mem_cons_self m (printItems vs ++ rest) (noNumberHead_printItems vs rest)
      (by omega)
    have hvs := ih (fun w hw => h w (List.mem_cons_of_mem v hw)) (n := m) (by omega)
    rw [printItems, List.cons_append, List.append_assoc, readItems, if_neg (by decide), if_pos rfl,
      hv]
    simp only [hvs]

theorem readField_print (key : String) {v : Value} (h : ReadsBack v) {n : ℕ} {rest : List Char}
    (hrest : NoNumberHead rest) (hn : v.printChars.length < n) :
    readField n (quoted key.toList ++ ':' :: (v.printChars ++ rest)) = some ((key, v), rest) := by
  obtain ⟨m, rfl⟩ : ∃ m, n = m + 1 := ⟨n - 1, by omega⟩
  rw [readField, readQuoted_quoted]
  simp only [h m rest hrest (by omega), String.ofList_toList]

theorem readFields_printFields {fs : List (String × Value)} (h : ∀ f ∈ fs, ReadsBack f.2) {n : ℕ}
    (rest : List Char) (hn : (printFields fs).length ≤ n) :
    readFields n (printFields fs ++ rest) = some (fs, rest) := by
  induction fs generalizing n with
  | nil =>
    obtain ⟨m, rfl⟩ : ∃ m, n = m + 1 := ⟨n - 1, by simp [printFields] at hn; omega⟩
    rw [printFields, List.singleton_append, readFields, if_pos rfl]
  | cons f fs ih =>
    obtain ⟨key, v⟩ := f
    rw [printFields, List.length_cons, List.length_append, List.length_cons,
      List.length_append] at hn
    obtain ⟨m, rfl⟩ : ∃ m, n = m + 1 := ⟨n - 1, by omega⟩
    have hback : ReadsBack v := h (key, v) List.mem_cons_self
    have hv := readField_print key hback (n := m) (noNumberHead_printFields fs rest)
      (by omega)
    have hfs := ih (fun g hg => h g (List.mem_cons_of_mem (key, v) hg)) (n := m) (by omega)
    rw [printFields, List.cons_append, List.append_assoc, List.cons_append, List.append_assoc,
      readFields, if_neg (by decide), if_pos rfl, hv]
    simp only [hfs]

theorem readsBack_array {items : List Value} (h : ∀ v ∈ items, ReadsBack v) :
    ReadsBack (.array items) := by
  intro fuel rest hrest hfuel
  cases items with
  | nil =>
    obtain ⟨m, rfl⟩ : ∃ m, fuel = m + 1 := ⟨fuel - 1, by simp [printChars] at hfuel; omega⟩
    rfl
  | cons v vs =>
    rw [printChars, List.length_cons, List.length_append] at hfuel
    obtain ⟨m, rfl⟩ : ∃ m, fuel = m + 1 := ⟨fuel - 1, by omega⟩
    have hv := h v List.mem_cons_self m (printItems vs ++ rest) (noNumberHead_printItems vs rest)
      (by omega)
    have hvs := readItems_printItems (fun w hw => h w (List.mem_cons_of_mem v hw)) (n := m) rest
      (by omega)
    rw [printChars, List.cons_append, List.append_assoc, readValue, if_neg (by decide),
      if_pos rfl, if_neg (head?_ne_of_readValue hv), hv]
    simp only [hvs]

theorem readsBack_object {fields : List (String × Value)} (h : ∀ f ∈ fields, ReadsBack f.2) :
    ReadsBack (.object fields) := by
  intro fuel rest hrest hfuel
  cases fields with
  | nil =>
    obtain ⟨m, rfl⟩ : ∃ m, fuel = m + 1 := ⟨fuel - 1, by simp [printChars] at hfuel; omega⟩
    rfl
  | cons f fs =>
    obtain ⟨key, v⟩ := f
    rw [printChars, List.length_cons, List.length_append, List.length_cons,
      List.length_append] at hfuel
    obtain ⟨m, rfl⟩ : ∃ m, fuel = m + 1 := ⟨fuel - 1, by omega⟩
    have hback : ReadsBack v := h (key, v) List.mem_cons_self
    have hv := readField_print key hback (n := m) (noNumberHead_printFields fs rest)
      (by omega)
    have hfs := readFields_printFields (fun g hg => h g (List.mem_cons_of_mem (key, v) hg))
      (n := m) rest (by omega)
    -- the object is not closed at once: a quotation mark comes first
    have hopen : (quoted key.toList ++ ':' :: (v.printChars ++ (printFields fs ++ rest))).head? ≠
        some closeBrace := by
      rw [quoted, List.cons_append, List.head?_cons]
      decide
    rw [printChars, List.cons_append, List.append_assoc, List.cons_append, List.append_assoc,
      readValue, if_neg (by decide), if_neg (by decide), if_pos rfl, if_neg hopen, hv]
    simp only [hfs]

/-- **A plain value is read back.** -/
theorem readsBack_of_plain {v : Value} (h : v.Plain) : ReadsBack v := by
  induction h with
  | null =>
    intro fuel rest hrest hfuel
    obtain ⟨m, rfl⟩ : ∃ m, fuel = m + 1 := ⟨fuel - 1, by simp [printChars] at hfuel; omega⟩
    rfl
  | bool b =>
    intro fuel rest hrest hfuel
    cases b <;>
    · obtain ⟨m, rfl⟩ : ∃ m, fuel = m + 1 := ⟨fuel - 1, by simp [printChars] at hfuel; omega⟩
      rfl
  | number n => exact readsBack_number n
  | string s => exact readsBack_string s
  | array h ih => exact readsBack_array ih
  | object h ih => exact readsBack_object ih

theorem parse_print {v : Value} (h : v.Plain) : parse v.print = some v := by
  have hread := readsBack_of_plain h (v.printChars.length + 1) [] noNumberHead_nil (by omega)
  rw [List.append_nil] at hread
  rw [parse, print, String.toList_ofList, hread]

end Value

end Blindjoin
